import CallRegistry.Proofs.Codec
import CallRegistry.Store.Operation
import CallRegistry.Text.Split

/-!
# The service behind the table

A table holds at most one item under a key.  A call reaches the service as the
name and the parameters that a store sends.  `Command.of?` is what the service
makes of them and `Command.Serves` what it may answer: a write is carried out
when its condition holds of the item under its key and refused otherwise, and a
consistent read gives that item.  A query leaves the table alone; its pages are
described where they matter.

Nothing is said about a call that the service makes nothing of.  It may be
answered in any way and leave any table, so no property of a store could be
proved if the store sent one.
-/

namespace CallRegistry

/-- The items of a table by their keys. -/
abbrev Table := String → Option Datum

/-- No item of the group is there: none that carries its key. -/
def Table.Free (t : Table) (group : String) : Prop :=
  (t group).bind (·.get? "groupConferenceId") = none

/-- The item of the group is of the given call. -/
def Table.HoldsCall (t : Table) (group call : String) : Prop :=
  (t group).bind (·.get? "jvbConferenceId") = some (Attribute.ofText call)

theorem Table.not_free_of_eq_toItem {t : Table} {group : String}
    {r : CallRecord} (hitem : t group = some r.toItem) : ¬ t.Free group := by
  simp [Table.Free, hitem]

theorem Table.holdsCall_iff_of_eq_toItem {t : Table} {group : String}
    {r : CallRecord} (hitem : t group = some r.toItem) (call : String) :
    t.HoldsCall group call ↔ r.callId.val = call := by
  simp [Table.HoldsCall, hitem, Attribute.ofText_injective.eq_iff]

theorem Table.free_update_of_ne {t : Table} {group key : String}
    (hne : group ≠ key) (item : Option Datum) :
    Table.Free (Function.update t key item) group ↔ t.Free group := by
  simp [Table.Free, hne]

theorem Table.holdsCall_update_of_ne {t : Table} {group key : String}
    (hne : group ≠ key) (item : Option Datum) (call : String) :
    Table.HoldsCall (Function.update t key item) group call ↔
      t.HoldsCall group call := by
  simp [Table.HoldsCall, hne]

namespace TableService

/-- A call as it reaches the service. -/
structure Call where
  method : String
  parameters : Form

/-- The attribute whose text is the key of an item. -/
def keyAttribute : String := "groupConferenceId"

/-- The text that an attribute value holds. -/
def textIn? : Datum → Option String
  | .map [("S", .text s)] => some s
  | _ => none

/-- The key that an item carries. -/
def keyIn? (item : Datum) : Option String :=
  (item.get? keyAttribute).bind textIn?

/-- A condition on the item under a key. -/
inductive Condition where
  | always
  /-- No item under the key has an attribute of this name. -/
  | absent (name : String)
  /-- The item under the key has this value under this name. -/
  | equals (name : String) (value : Datum)

/-- Whether a condition holds of what is under a key. -/
def Condition.Met : Condition → Option Datum → Prop
  | always, _ => True
  | absent name, item => item.bind (·.get? name) = none
  | equals name value, item => item.bind (·.get? name) = some value

/-- The name in an expression `attribute_not_exists(name)`. -/
def absentName? (expression : String) : Option String :=
  match Text.pieces '(' expression.toList with
  | [function, argument] =>
    if String.ofList function = "attribute_not_exists" ∧
        argument.getLast? = some ')' then
      some (String.ofList argument.dropLast)
    else
      none
  | _ => none

/-- The sides of an expression `left = right`. -/
def sides? (expression : String) : Option (String × String) :=
  match Text.pieces ' ' expression.toList with
  | [left, ['='], right] => some (String.ofList left, String.ofList right)
  | _ => none

/-- The condition that an expression states when its placeholders stand for
`values`. -/
def Condition.ofExpression? (values : Datum) (expression : String) :
    Option Condition :=
  match absentName? expression with
  | some name => some (.absent name)
  | none => do
    let (name, placeholder) ← sides? expression
    let value ← values.get? placeholder
    return .equals name value

/-- The condition that parameters put on a write. -/
def Condition.of? (parameters : Form) : Option Condition :=
  match parameters.lookup "ConditionExpression" with
  | none => some .always
  | some expression =>
    expression.text?.bind
      (ofExpression? (parameters.value "ExpressionAttributeValues"))

/-- What a call asks for. -/
inductive Command where
  /-- Leaves an item, or nothing, under a key if the condition holds. -/
  | write (key : String) (item : Option Datum) (condition : Condition)
  | read (key : String)
  /-- The items of an index with this value, after a key if there is one. -/
  | query (index : Datum) (name : String) (value : Datum)
      (after : Option Datum)

/-- The attribute and the value that a query of an index asks for. -/
def queried? (parameters : Form) : Option (String × Datum) := do
  let expression ← (parameters.value "KeyConditionExpression").text?
  let (short, placeholder) ← sides? expression
  let name ← (parameters.value "ExpressionAttributeNames").get? short
  let name ← name.text?
  let value ← (parameters.value "ExpressionAttributeValues").get? placeholder
  return (name, value)

/-- What a call asks of the table of the given name, if it is understood. -/
def Command.of? (table : Datum) (c : Call) : Option Command :=
  if c.parameters.lookup "TableName" = some table then
    match c.method with
    | "put_item" => do
      let item ← c.parameters.lookup "Item"
      let key ← keyIn? item
      let condition ← Condition.of? c.parameters
      return .write key (some item) condition
    | "delete_item" => do
      let key ← (c.parameters.lookup "Key").bind keyIn?
      let condition ← Condition.of? c.parameters
      return .write key none condition
    | "get_item" => do
      let key ← (c.parameters.lookup "Key").bind keyIn?
      if c.parameters.lookup "ConsistentRead" = some (.bool true) then
        return .read key
      else
        none
    | "query" => do
      let index ← c.parameters.lookup "IndexName"
      let (name, value) ← queried? c.parameters
      return .query index name value (c.parameters.lookup "ExclusiveStartKey")
    | _ => none
  else
    none

/-- The reply to a write whose condition does not hold. -/
def Refused (reply : Reply) : Prop :=
  ∃ rejection : Rejection,
    reply = .error (.rejected rejection) ∧ rejection.isConditionFailed = true

/-- What may be answered to a command, and the table it leaves. -/
inductive Command.Serves (t : Table) : Command → Reply → Table → Prop
  | written {key : String} {item : Option Datum} {condition : Condition}
      (hmet : condition.Met (t key)) (response : Datum) :
      Serves t (.write key item condition) (.ok response)
        (Function.update t key item)
  | refused {key : String} {item : Option Datum} {condition : Condition}
      (hunmet : ¬ condition.Met (t key)) {reply : Reply}
      (hrefused : Refused reply) :
      Serves t (.write key item condition) reply t
  | found {key : String} {fields : Form}
      (hitem : fields.lookup "Item" = t key) :
      Serves t (.read key) (.ok (.map fields)) t
  | listed {index : Datum} {name : String} {value : Datum}
      {after : Option Datum} (reply : Reply) :
      Serves t (.query index name value after) reply t

/-- The command that a request of a store comes to. -/
def commandOf? (config : TableConfig) (q : Request) : Option Command :=
  Command.of? config.table ⟨q.method, q.parameters config⟩

/-- A service that loses no reply: what it may answer to a request, and the table
it leaves. -/
def Reliable (config : TableConfig) (t : Table) (q : Request) (reply : Reply)
    (t' : Table) : Prop :=
  match commandOf? config q with
  | some command => command.Serves t reply t'
  | none => True

/-- A service that may also fail in the ways that `fails` admits.  The request
was then carried out and its reply lost, or it was never carried out. -/
inductive Lossy (fails : CallFailure → Prop) (config : TableConfig) (t : Table)
    (q : Request) : Reply → Table → Prop
  | answered {reply : Reply} {t' : Table}
      (hreliable : Reliable config t q reply t') :
      Lossy fails config t q reply t'
  | lost {failure : CallFailure} (hfails : fails failure) :
      Lossy fails config t q (.error failure) t
  | carriedOut {failure : CallFailure} (hfails : fails failure) {reply : Reply}
      {t' : Table} (hreliable : Reliable config t q reply t') :
      Lossy fails config t q (.error failure) t'

/-! ## The requests of a store are understood -/

theorem keyIn?_key (group : String) :
    keyIn? (Request.key group) = some group := by
  simp [keyIn?, keyAttribute, Request.key, Datum.get?, Attribute.ofText,
    textIn?, CallRecord.Field.attributeName]

theorem keyIn?_toItem (r : CallRecord) :
    keyIn? r.toItem = some r.groupId.val := by
  simp [keyIn?, keyAttribute, Attribute.ofText, textIn?]

theorem condition_putItem (config : TableConfig) (r : CallRecord) :
    Condition.of? (Request.parameters config (.putItem r)) =
      some (.absent "groupConferenceId") := by
  have hname :
      absentName? ("attribute_not_exists(" ++
        CallRecord.Field.groupId.attributeName ++ ")") =
        some "groupConferenceId" := by decide
  simp [Condition.of?, Request.parameters, List.lookup_cons, Datum.text?,
    Condition.ofExpression?, hname]

theorem condition_deleteItem (config : TableConfig) (group call : String) :
    Condition.of? (Request.parameters config (.deleteItem group call)) =
      some (.equals "jvbConferenceId" (Attribute.ofText call)) := by
  have hname :
      absentName? (CallRecord.Field.callId.attributeName ++ " = :value") =
        none := by decide
  have hsides :
      sides? (CallRecord.Field.callId.attributeName ++ " = :value") =
        some ("jvbConferenceId", ":value") := by decide
  simp [Condition.of?, Request.parameters, List.lookup_cons, Datum.text?,
    Condition.ofExpression?, hname, hsides, Form.value,
    Request.conditionValue, Datum.get?]

theorem queried?_query (config : TableConfig) (region : String)
    (after : Option Datum) :
    queried? (Request.parameters config (.query region after)) =
      some ("region", Attribute.ofText region) := by
  have hsides : sides? "#region = :value" = some ("#region", ":value") := by
    decide
  simp [queried?, Request.parameters, Form.value, List.lookup_cons, Datum.text?,
    hsides, Datum.get?, Request.conditionValue,
    CallRecord.Field.attributeName]

theorem commandOf?_getItem (config : TableConfig) (group : String) :
    commandOf? config (.getItem group) = some (.read group) := by
  simp [commandOf?, Command.of?, Request.method, Request.parameters,
    keyIn?_key, List.lookup_cons]

theorem commandOf?_putItem (config : TableConfig) (r : CallRecord) :
    commandOf? config (.putItem r) =
      some (.write r.groupId (some r.toItem)
        (.absent "groupConferenceId")) := by
  unfold commandOf? Command.of?
  simp only [condition_putItem]
  simp [Request.method, Request.parameters, keyIn?_toItem, List.lookup_cons]

theorem commandOf?_deleteItem (config : TableConfig) (group call : String) :
    commandOf? config (.deleteItem group call) =
      some (.write group none
        (.equals "jvbConferenceId" (Attribute.ofText call))) := by
  unfold commandOf? Command.of?
  simp only [condition_deleteItem]
  simp [Request.method, Request.parameters, keyIn?_key, List.lookup_cons]

theorem commandOf?_query (config : TableConfig) (region : String)
    (after : Option Datum) :
    commandOf? config (.query region after) =
      some (.query config.regionIndex "region" (Attribute.ofText region)
        after) := by
  unfold commandOf? Command.of?
  simp only [queried?_query]
  cases after <;> simp [Request.method, Request.parameters, List.lookup_cons]

/-! ## What may be answered to the requests -/

theorem refused_of_conditionFailed {failure : CallFailure}
    (hcode : failure.isConditionFailed = true) :
    Refused (.error failure) := by
  cases failure with
  | rejected rejection => exact ⟨rejection, rfl, hcode⟩
  | client fault => simp [CallFailure.isConditionFailed] at hcode
  | foreign failure => simp [CallFailure.isConditionFailed] at hcode

theorem Command.serves_write_iff {t t' : Table} {key : String}
    {item : Option Datum} {condition : Condition} {reply : Reply} :
    Command.Serves t (.write key item condition) reply t' ↔
      (condition.Met (t key) ∧
        (∃ response, reply = .ok response) ∧
        t' = Function.update t key item) ∨
      (¬ condition.Met (t key) ∧ Refused reply ∧ t' = t) := by
  constructor
  · intro h
    cases h with
    | written hmet response =>
        exact Or.inl ⟨hmet, ⟨response, rfl⟩, rfl⟩
    | refused hunmet hrefused =>
        exact Or.inr ⟨hunmet, hrefused, rfl⟩
  · rintro (⟨hmet, ⟨response, rfl⟩, rfl⟩ | ⟨hunmet, hrefused, rfl⟩)
    · exact .written hmet response
    · exact .refused hunmet hrefused

theorem reliable_getItem_iff {config : TableConfig} {t t' : Table}
    {group : String} {reply : Reply} :
    Reliable config t (.getItem group) reply t' ↔
      (∃ fields : Form, reply = .ok (.map fields) ∧
        fields.lookup "Item" = t group) ∧ t' = t := by
  unfold Reliable
  rw [commandOf?_getItem]
  constructor
  · intro h
    cases h with
    | found hitem => exact ⟨⟨_, rfl, hitem⟩, rfl⟩
  · rintro ⟨⟨fields, rfl, hitem⟩, rfl⟩
    exact .found hitem

theorem reliable_putItem_iff {config : TableConfig} {t t' : Table}
    {r : CallRecord} {reply : Reply} :
    Reliable config t (.putItem r) reply t' ↔
      (t.Free r.groupId ∧ (∃ response, reply = .ok response) ∧
        t' = Function.update t r.groupId (some r.toItem)) ∨
      (¬ t.Free r.groupId ∧ Refused reply ∧ t' = t) := by
  unfold Reliable
  rw [commandOf?_putItem]
  exact Command.serves_write_iff

theorem reliable_deleteItem_iff {config : TableConfig} {t t' : Table}
    {group call : String} {reply : Reply} :
    Reliable config t (.deleteItem group call) reply t' ↔
      (t.HoldsCall group call ∧ (∃ response, reply = .ok response) ∧
        t' = Function.update t group none) ∨
      (¬ t.HoldsCall group call ∧ Refused reply ∧ t' = t) := by
  unfold Reliable
  rw [commandOf?_deleteItem]
  exact Command.serves_write_iff

theorem reliable_query_iff {config : TableConfig} {t t' : Table}
    {region : String} {after : Option Datum} {reply : Reply} :
    Reliable config t (.query region after) reply t' ↔ t' = t := by
  unfold Reliable
  rw [commandOf?_query]
  constructor
  · intro h
    cases h with
    | listed => rfl
  · rintro rfl
    exact .listed reply

/-- A request changes the table only by a write whose condition holds. -/
theorem Reliable.changes {config : TableConfig} {t t' : Table} {q : Request}
    {reply : Reply} (h : Reliable config t q reply t') :
    t' = t ∨
    (∃ record, q = .putItem record ∧ t.Free record.groupId ∧
      t' = Function.update t record.groupId (some record.toItem)) ∨
    (∃ group call response, q = .deleteItem group call ∧
      t.HoldsCall group call ∧ reply = .ok response ∧
      t' = Function.update t group none) := by
  cases q with
  | getItem group => exact Or.inl (reliable_getItem_iff.mp h).2
  | putItem record =>
      rcases reliable_putItem_iff.mp h with ⟨hfree, -, ht'⟩ | ⟨-, -, ht'⟩
      · exact Or.inr (Or.inl ⟨record, rfl, hfree, ht'⟩)
      · exact Or.inl ht'
  | deleteItem group call =>
      rcases reliable_deleteItem_iff.mp h with
        ⟨hholds, ⟨response, hreply⟩, ht'⟩ | ⟨-, -, ht'⟩
      · exact Or.inr (Or.inr ⟨group, call, response, rfl, hholds, hreply, ht'⟩)
      · exact Or.inl ht'
  | query region after => exact Or.inl (reliable_query_iff.mp h)

/-! ## Two calls of one group, and a refusal -/

def sampleTable : TableConfig where
  table := .text "calls"
  region := .text "eu"

def firstCall : CallRecord where
  groupId := ⟨"group", by decide⟩
  callId := ⟨"first", by decide⟩
  backendHost := ⟨"host", by decide⟩
  backendRegion := ⟨"eu", by decide⟩
  creator := ⟨"alice", by decide⟩

def secondCall : CallRecord :=
  { firstCall with callId := ⟨"second", by decide⟩ }

def sampleRefusal : Reply :=
  .error (.rejected
    { operation := "PutItem", code := some Rejection.conditionFailedCode
      reason := none, retries := none })

theorem sampleRefusal_refused : Refused sampleRefusal :=
  ⟨_, rfl, by decide⟩

end TableService

end CallRegistry
