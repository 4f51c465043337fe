import CallRegistry.Proofs.Codec

/-!
# Which items hold a record

An attribute gives a text only under the type of texts or of truth values, and
hands on what stands there.  So an item is read as a record when its five
attributes give five texts that are not empty, and from nothing else; what it
holds besides, and in which order, does not matter.
-/

namespace CallRegistry

theorem Except.bind_eq_ok_iff {ε α β : Type} {x : Except ε α}
    {f : α → Except ε β} {b : β} :
    (x >>= f) = .ok b ↔ ∃ a, x = .ok a ∧ f a = .ok b := by
  cases x <;> simp [bind, Except.bind]

theorem Except.bind_eq_error_iff {ε α β : Type} {x : Except ε α}
    {f : α → Except ε β} {e : ε} :
    (x >>= f) = .error e ↔ x = .error e ∨ ∃ a, x = .ok a ∧ f a = .error e := by
  cases x <;> simp [bind, Except.bind]

theorem Except.mapError_eq_ok_iff {ε ε' α : Type} {x : Except ε α}
    {f : ε → ε'} {a : α} : x.mapError f = .ok a ↔ x = .ok a := by
  cases x <;> simp [Except.mapError]

theorem Except.mapError_eq_error_iff {ε ε' α : Type} {x : Except ε α}
    {f : ε → ε'} {e : ε'} :
    x.mapError f = .error e ↔ ∃ fault, x = .error fault ∧ f fault = e := by
  cases x <;> simp [Except.mapError]

/-- The same letters, each in one case or the other. -/
def Text.SameLetters (s t : String) : Prop :=
  s.toList.map Char.toLower = t.toList.map Char.toLower

namespace AttributeType

theorem ofName?_eq_some_iff {tag : String} {type : AttributeType} :
    ofName? tag = some type ↔
      ∃ name, (name, type) ∈ names ∧ Text.SameLetters tag name := by
  have hlower : ∀ e ∈ names, e.1.toList.map Char.toLower = e.1.toList := by
    decide
  have hfirst : ∀ e ∈ names, names.lookup e.1 = some e.2 := by decide
  unfold ofName? Text.SameLetters
  constructor
  · intro hlookup
    obtain ⟨before, after, heq, -⟩ := List.lookup_eq_some_iff.mp hlookup
    refine ⟨_, heq ▸ List.mem_append_right _ List.mem_cons_self, ?_⟩
    have hmem : (String.ofList (tag.toList.map Char.toLower), type) ∈ names := by
      rw [heq]
      exact List.mem_append_right _ List.mem_cons_self
    rw [hlower _ hmem, String.toList_ofList]
  · rintro ⟨name, hmem, hsame⟩
    rw [hsame, hlower _ hmem, String.ofList_toList]
    exact hfirst _ hmem

theorem ofName?_eq_text_iff {tag : String} :
    ofName? tag = some .text ↔ Text.SameLetters tag "S" := by
  simp [ofName?_eq_some_iff, names, Text.SameLetters]

theorem ofName?_eq_truth_iff {tag : String} :
    ofName? tag = some .truth ↔ Text.SameLetters tag "BOOL" := by
  simp [ofName?_eq_some_iff, names, Text.SameLetters]

end AttributeType

namespace Attribute

variable {room : Option ℕ}

/-- The value gives this text: it stands first, as a text or a truth value. -/
def Gives (value : Datum) (s : String) : Prop :=
  ∃ tag rest, value = .map ((tag, .text s) :: rest) ∧
    (Text.SameLetters tag "S" ∨ Text.SameLetters tag "BOOL")

theorem gives_ofText (s : String) : Gives (ofText s) s :=
  ⟨"S", [], rfl, Or.inl rfl⟩

theorem readAll_eq_ok {xs : List Datum} {o : Option String}
    (h : readAll xs room = .ok o) : o = none := by
  induction xs with
  | nil => simpa [readAll] using h.symm
  | cons x rest ih =>
      rw [readAll] at h
      split at h
      next => contradiction
      next =>
        split at h
        next => exact ih h
        next => contradiction

theorem readEntries_eq_ok {es : List (String × Datum)} {o : Option String}
    (h : readEntries es room = .ok o) : o = none := by
  induction es with
  | nil => simpa [readEntries] using h.symm
  | cons e rest ih =>
      rw [readEntries] at h
      split at h
      next => contradiction
      next =>
        split at h
        next => exact ih h
        next => contradiction

theorem readContent_eq_ok_some_iff {type : AttributeType} {content : Datum}
    {s : String} :
    readContent type content room = .ok (some s) ↔
      (type = .text ∨ type = .truth) ∧ content = .text s := by
  have htext : content.text? = some s ↔ content = .text s := by
    cases content <;> simp [Datum.text?]
  have hnone : ∀ {α : Type} {x : Except AttributeFault α},
      x.map (fun _ => (none : Option String)) ≠ .ok (some s) := by
    intro α x
    cases x <;> simp [Except.map]
  cases type with
  | text | truth => simp [readContent, htext]
  | absent => simp [readContent]
  | number =>
      simp only [readContent]
      split <;> simp
  | binary | textSet | numberSet | binarySet => simp [readContent, hnone]
  | list =>
      have hall : ∀ xs, readAll xs room ≠ .ok (some s) := by
        intro xs h
        cases readAll_eq_ok h
      cases content <;> simp [readContent, hnone, hall]
  | map =>
      have hall : ∀ es, readEntries es room ≠ .ok (some s) := by
        intro es h
        cases readEntries_eq_ok h
      cases content <;> simp [readContent, hall]

theorem read_map_eq_ok_some_iff {tag : String} {content : Datum}
    {rest : List (String × Datum)} {s : String} :
    read (.map ((tag, content) :: rest)) room = .ok (some s) ↔
      (AttributeType.ofName? tag = some .text ∨
        AttributeType.ofName? tag = some .truth) ∧ content = .text s := by
  rw [read]
  split
  next type htype => simp [htype, readContent_eq_ok_some_iff]
  next htype => simp [htype]

theorem read_eq_ok_some_iff {value : Datum} {s : String} :
    read value room = .ok (some s) ↔ Gives value s := by
  constructor
  · intro hread
    cases value with
    | map entries =>
        cases entries with
        | nil => simp [read] at hread
        | cons first rest =>
            obtain ⟨tag, content⟩ := first
            rw [read_map_eq_ok_some_iff] at hread
            obtain ⟨htype, rfl⟩ := hread
            rw [AttributeType.ofName?_eq_text_iff,
              AttributeType.ofName?_eq_truth_iff] at htype
            exact ⟨tag, rest, rfl, htype⟩
    | _ => simp [read] at hread
  · rintro ⟨tag, rest, rfl, htag⟩
    rw [read_map_eq_ok_some_iff, AttributeType.ofName?_eq_text_iff,
      AttributeType.ofName?_eq_truth_iff]
    exact ⟨htag, rfl⟩

end Attribute

namespace CallRecord

theorem require_eq_ok_iff {value : Field → Option String} {f : Field}
    {s : NonemptyText} : require value f = .ok s ↔ value f = some s.val := by
  refine ⟨?_, require_of_text⟩
  intro hrequire
  unfold require NonemptyText.of? at hrequire
  cases hvalue : value f with
  | none => simp [hvalue] at hrequire
  | some t =>
      by_cases hne : t ≠ ""
      · simp only [hvalue, dif_pos hne, Except.ok.injEq] at hrequire
        rw [← hrequire]
      · simp [hvalue, hne] at hrequire

theorem ofFields_eq_ok_iff {value : Field → Option String} {r : CallRecord} :
    ofFields value = .ok r ↔ ∀ f, value f = some (r.get f) := by
  refine ⟨?_, r.ofFields_get⟩
  intro hfields
  simp only [ofFields, Except.bind_eq_ok_iff, require_eq_ok_iff] at hfields
  obtain ⟨group, hgroup, call, hcall, host, hhost, region, hregion, creator,
    hcreator, hr⟩ := hfields
  cases hr
  intro f
  cases f with
  | groupId => exact hgroup
  | callId => exact hcall
  | backendHost => exact hhost
  | backendRegion => exact hregion
  | creator => exact hcreator

variable {entries : List (String × Datum)} {r : CallRecord} {room : Option ℕ}

theorem ofItem_map_eq_ok_iff :
    ofItem (.map entries) room = .ok r ↔
      ∀ f, textOfItem (.map entries) f room = .ok (some (r.get f)) := by
  simp only [ofItem, Except.bind_eq_ok_iff, Except.mapError_eq_ok_iff,
    ofFields_eq_ok_iff]
  constructor
  · rintro ⟨group, hgroup, call, hcall, host, hhost, region, hregion, creator,
      hcreator, htexts⟩ f
    rw [← htexts f]
    cases f with
    | groupId => exact hgroup
    | callId => exact hcall
    | backendHost => exact hhost
    | backendRegion => exact hregion
    | creator => exact hcreator
  · intro h
    refine ⟨_, h .groupId, _, h .callId, _, h .backendHost, _, h .backendRegion,
      _, h .creator, ?_⟩
    intro f
    cases f <;> rfl

theorem textOfItem_eq_ok_some_iff {f : Field} {s : String} :
    textOfItem (.map entries) f room = .ok (some s) ↔
      ∃ value, entries.lookup f.attributeName = some value ∧
        Attribute.Gives value s := by
  simp only [textOfItem]
  split
  next value hlookup =>
    simp [hlookup, Except.mapError_eq_ok_iff, Attribute.read_eq_ok_some_iff]
  next hlookup => simp [hlookup]

/-- An item is read as the record whose five texts its five attributes give. -/
theorem ofItem_eq_ok_iff :
    ofItem (.map entries) room = .ok r ↔
      ∀ f : Field, ∃ value, entries.lookup f.attributeName = some value ∧
        Attribute.Gives value (r.get f) := by
  simp only [ofItem_map_eq_ok_iff, textOfItem_eq_ok_some_iff]

/-- An item that is not read lacks an attribute, has one that cannot be read, or
gives something other than a text for a field. -/
theorem ofItem_map_eq_error {fault : ItemFault}
    (h : ofItem (.map entries) room = .error fault) :
    (∃ f : Field, fault = .missing f.attributeName) ∨
    (∃ f : Field, fault = .field f) ∨
    ∃ (f : Field) (value : Datum) (cause : AttributeFault),
      entries.lookup f.attributeName = some value ∧
      Attribute.read value room = .error cause ∧ fault = .unreadable cause := by
  have htext : ∀ f : Field, textOfItem (.map entries) f room = .error fault →
      (∃ f : Field, fault = .missing f.attributeName) ∨
      ∃ (f : Field) (value : Datum) (cause : AttributeFault),
        entries.lookup f.attributeName = some value ∧
        Attribute.read value room = .error cause ∧
        fault = .unreadable cause := by
    intro f htext
    simp only [textOfItem] at htext
    split at htext
    next value hlookup =>
      obtain ⟨cause, hcause, rfl⟩ := Except.mapError_eq_error_iff.mp htext
      exact Or.inr ⟨f, value, cause, hlookup, hcause, rfl⟩
    next => exact Or.inl ⟨f, (Except.error.inj htext).symm⟩
  simp only [ofItem, Except.bind_eq_error_iff,
    Except.mapError_eq_error_iff] at h
  rcases h with h | ⟨-, -, h | ⟨-, -, h | ⟨-, -, h | ⟨-, -, h | ⟨-, -, f, -, rfl⟩⟩⟩⟩⟩
  · exact (htext .groupId h).imp_right Or.inr
  · exact (htext .callId h).imp_right Or.inr
  · exact (htext .backendHost h).imp_right Or.inr
  · exact (htext .backendRegion h).imp_right Or.inr
  · exact (htext .creator h).imp_right Or.inr
  · exact Or.inr (Or.inl ⟨f, rfl⟩)

/-- A record holds any five texts that are not empty. -/
theorem exists_get_eq {texts : Field → String} (htexts : ∀ f, texts f ≠ "") :
    ∃ r : CallRecord, ∀ f, r.get f = texts f := by
  let text (f : Field) : NonemptyText := ⟨texts f, htexts f⟩
  refine ⟨⟨text .groupId, text .callId, text .backendHost,
    text .backendRegion, text .creator⟩, ?_⟩
  intro f
  cases f <;> rfl

theorem get_ne_empty (r : CallRecord) (f : Field) : r.get f ≠ "" := by
  cases f with
  | groupId => exact r.groupId.property
  | callId => exact r.callId.property
  | backendHost => exact r.backendHost.property
  | backendRegion => exact r.backendRegion.property
  | creator => exact r.creator.property

theorem attributeName_injective : Function.Injective Field.attributeName := by
  intro f g h
  cases f <;> cases g <;> simp_all [Field.attributeName]

/-- The attributes of a record, in the order in which they are written. -/
def attributes (r : CallRecord) : List (String × Datum) :=
  Field.all.map fun f => (f.attributeName, Attribute.ofText (r.get f))

theorem toItem_eq_map (r : CallRecord) : r.toItem = .map r.attributes := rfl

theorem mem_attributes_iff {name : String} {value : Datum} :
    (name, value) ∈ r.attributes ↔
      ∃ f : Field, name = f.attributeName ∧
        value = Attribute.ofText (r.get f) := by
  have hall : ∀ f : Field, f ∈ Field.all := by
    intro f
    cases f <;> simp [Field.all]
  simp [attributes, hall, eq_comm]

theorem lookup_eq_some_of_unique {name : String} {value : Datum}
    (hmem : (name, value) ∈ entries)
    (hunique : ∀ other, (name, other) ∈ entries → other = value) :
    entries.lookup name = some value := by
  cases hlookup : entries.lookup name with
  | none =>
      have hne := List.lookup_eq_none_iff.mp hlookup _ hmem
      simp at hne
  | some other =>
      obtain ⟨before, after, rfl, -⟩ := List.lookup_eq_some_iff.mp hlookup
      rw [hunique other (by simp)]

theorem lookup_of_perm {extras : List (String × Datum)}
    (hextras : ∀ e ∈ extras, ∀ f : Field, e.1 ≠ f.attributeName)
    (hperm : entries.Perm (r.attributes ++ extras)) (f : Field) :
    entries.lookup f.attributeName = some (Attribute.ofText (r.get f)) := by
  have hmem : ∀ value, (f.attributeName, value) ∈ entries ↔
      value = Attribute.ofText (r.get f) := by
    intro value
    have hextra : (f.attributeName, value) ∉ extras :=
      fun h => hextras _ h f rfl
    rw [hperm.mem_iff, List.mem_append, or_iff_left hextra, mem_attributes_iff]
    constructor
    · rintro ⟨g, hname, rfl⟩
      rw [attributeName_injective hname]
    · rintro rfl
      exact ⟨f, rfl, rfl⟩
  exact lookup_eq_some_of_unique ((hmem _).mpr rfl) fun other => (hmem other).mp

/-- What an item holds under the five attributes, in the order in which a record
is written. -/
def five (entries : List (String × Datum)) : List (String × Datum) :=
  Field.all.filterMap fun f =>
    (entries.lookup f.attributeName).map fun value => (f.attributeName, value)

theorem five_of_lookup
    (h : ∀ f : Field,
      entries.lookup f.attributeName = some (Attribute.ofText (r.get f))) :
    five entries = r.attributes := by
  simp [five, attributes, h]

theorem gives_single_iff {content : Datum} {s : String} :
    Attribute.Gives (.map [("S", content)]) s ↔ content = .text s := by
  constructor
  · rintro ⟨tag, rest, hmap, -⟩
    simp_all
  · rintro rfl
    exact Attribute.gives_ofText s

/-! ## The laws of the codec -/

/-- A record is read from its item, whatever else is put in and wherever; an item
is a record exactly when its five attributes give texts that are not empty, and
those are the texts of the record; and a record read from plain texts is written
to the attributes that it was read from. -/
theorem item_codec_laws :
    (∀ (r : CallRecord) (entries extras : List (String × Datum)),
      (∀ e ∈ extras, ∀ f : Field, e.1 ≠ f.attributeName) →
      (∃ attributes, r.toItem = .map attributes ∧
        entries.Perm (attributes ++ extras)) →
      ofItem (.map entries) = .ok r) ∧
    (∀ entries : List (String × Datum),
      ((∃ r, ofItem (.map entries) = .ok r) ↔
        ∀ f : Field, ∃ value s, entries.lookup f.attributeName = some value ∧
          Attribute.Gives value s ∧ s ≠ "") ∧
      ∀ r, ofItem (.map entries) = .ok r →
        ∀ f : Field, ∃ value, entries.lookup f.attributeName = some value ∧
          Attribute.Gives value (r.get f)) ∧
    (∀ (entries : List (String × Datum)) (r : CallRecord),
      ofItem (.map entries) = .ok r →
      (∀ f : Field, ∃ content,
        entries.lookup f.attributeName = some (.map [("S", content)])) →
      r.toItem = .map (five entries)) := by
  refine ⟨?_, ?_, ?_⟩
  · rintro r entries extras hextras ⟨attributes, hattributes, hperm⟩
    rw [r.toItem_eq_map, Datum.map.injEq] at hattributes
    subst attributes
    exact ofItem_of_lookup (lookup_of_perm hextras hperm)
  · intro entries
    refine ⟨⟨?_, ?_⟩, fun r => ofItem_eq_ok_iff.mp⟩
    · rintro ⟨r, hread⟩ f
      obtain ⟨value, hlookup, hgives⟩ := ofItem_eq_ok_iff.mp hread f
      exact ⟨value, r.get f, hlookup, hgives, r.get_ne_empty f⟩
    · intro h
      choose value texts hlookup hgives hne using h
      obtain ⟨r, hr⟩ := exists_get_eq hne
      refine ⟨r, ofItem_eq_ok_iff.mpr ?_⟩
      intro f
      exact ⟨value f, hlookup f, hr f ▸ hgives f⟩
  · intro entries r hread hsingle
    rw [r.toItem_eq_map, five_of_lookup]
    intro f
    obtain ⟨content, hcontent⟩ := hsingle f
    obtain ⟨value, hlookup, hgives⟩ := ofItem_eq_ok_iff.mp hread f
    obtain rfl : value = .map [("S", content)] := by
      simpa [hcontent] using hlookup.symm
    rw [gives_single_iff] at hgives
    rw [hcontent, hgives]
    rfl

def sampleRecord : CallRecord where
  groupId := ⟨"g", by decide⟩
  callId := ⟨"c", by decide⟩
  backendHost := ⟨"h", by decide⟩
  backendRegion := ⟨"r", by decide⟩
  creator := ⟨"u", by decide⟩

/-- A record among attributes that nothing reads, one of them no number. -/
def crowdedItem : List (String × Datum) :=
  [("ttl", .map [("N", .text "1E999")]),
    ("creator", Attribute.ofText "u"), ("region", Attribute.ofText "r"),
    ("jvbHost", Attribute.ofText "h"), ("note", .null),
    ("jvbConferenceId", Attribute.ofText "c"),
    ("groupConferenceId", Attribute.ofText "g")]

/-- The attributes of a record are found in a crowd, and written back alone. -/
theorem item_codec_of_crowd :
    ofItem (.map crowdedItem) = .ok sampleRecord ∧
    (∃ value, crowdedItem.lookup "jvbHost" = some value ∧
      Attribute.Gives value "h") ∧
    sampleRecord.toItem = .map (five crowdedItem) := by
  have hextras : ∀ e ∈ [("ttl", Datum.map [("N", .text "1E999")]),
      ("note", .null)], ∀ f : Field, e.1 ≠ f.attributeName := by
    intro e he f
    simp only [List.mem_cons, List.not_mem_nil, or_false] at he
    rcases he with rfl | rfl <;> cases f <;> decide
  have hperm : crowdedItem.Perm (sampleRecord.attributes ++
      [("ttl", .map [("N", .text "1E999")]), ("note", .null)]) := by
    decide
  have hread := item_codec_laws.1 sampleRecord crowdedItem _ hextras
    ⟨_, rfl, hperm⟩
  have hsingle : ∀ f : Field, ∃ content,
      crowdedItem.lookup f.attributeName = some (.map [("S", content)]) := by
    intro f
    cases f <;> exact ⟨_, rfl⟩
  exact ⟨hread, (item_codec_laws.2.1 crowdedItem).2 _ hread .backendHost,
    item_codec_laws.2.2 crowdedItem _ hread hsingle⟩

end CallRecord

end CallRegistry
