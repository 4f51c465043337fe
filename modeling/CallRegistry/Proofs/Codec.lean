import Mathlib.Tactic
import CallRegistry.CallRecord.Item

/-!
# Records survive their items

An item under whose five attributes the texts of a record stand is read as that
record, whatever else the item holds.  The item a record is written to is such an
item, so writing and reading give the record back.
-/

namespace CallRegistry

@[simp] theorem Attribute.read_ofText (s : String) :
    Attribute.read (Attribute.ofText s) = .ok (some s) := by
  have htype : AttributeType.ofName? "S" = some .text := by decide
  simp [Attribute.ofText, Attribute.read, htype, Attribute.readContent,
    Datum.text?]

theorem Attribute.ofText_injective : Function.Injective Attribute.ofText := by
  intro s t h
  simpa [Attribute.ofText] using h

namespace CallRecord

theorem require_of_text {value : Field → Option String} {f : Field}
    {s : NonemptyText} (hvalue : value f = some s.val) :
    require value f = .ok s := by
  simp [require, NonemptyText.of?, hvalue, s.property]

theorem ofFields_get (r : CallRecord) {value : Field → Option String}
    (hvalue : ∀ f, value f = some (r.get f)) :
    ofFields value = .ok r := by
  have hgroup : require value .groupId = .ok r.groupId :=
    require_of_text (hvalue .groupId)
  have hcall : require value .callId = .ok r.callId :=
    require_of_text (hvalue .callId)
  have hhost : require value .backendHost = .ok r.backendHost :=
    require_of_text (hvalue .backendHost)
  have hregion : require value .backendRegion = .ok r.backendRegion :=
    require_of_text (hvalue .backendRegion)
  have hcreator : require value .creator = .ok r.creator :=
    require_of_text (hvalue .creator)
  unfold ofFields
  rw [hgroup, hcall, hhost, hregion, hcreator]
  rfl

/-- An item that holds the texts of a record is read as that record. -/
theorem ofItem_of_lookup {entries : List (String × Datum)} {r : CallRecord}
    (h : ∀ f : Field,
      entries.lookup f.attributeName = some (Attribute.ofText (r.get f))) :
    ofItem (.map entries) = .ok r := by
  have htext : ∀ f : Field,
      textOfItem (.map entries) f = .ok (some (r.get f)) := by
    intro f
    simp [textOfItem, h f, Except.mapError]
  unfold ofItem
  rw [htext, htext, htext, htext, htext]
  simp only [bind, Except.bind]
  rw [ofFields_get r]
  · rfl
  · intro f
    cases f <;> rfl

theorem get?_toItem (r : CallRecord) (f : Field) :
    r.toItem.get? f.attributeName = some (Attribute.ofText (r.get f)) := by
  cases f <;>
    simp [toItem, Datum.get?, Field.all, Field.attributeName, List.lookup_cons]

@[simp] theorem get?_toItem_group (r : CallRecord) :
    r.toItem.get? "groupConferenceId" =
      some (Attribute.ofText r.groupId) :=
  r.get?_toItem .groupId

@[simp] theorem get?_toItem_call (r : CallRecord) :
    r.toItem.get? "jvbConferenceId" = some (Attribute.ofText r.callId) :=
  r.get?_toItem .callId

@[simp] theorem get?_toItem_region (r : CallRecord) :
    r.toItem.get? "region" = some (Attribute.ofText r.backendRegion) :=
  r.get?_toItem .backendRegion

@[simp] theorem ofItem_toItem (r : CallRecord) :
    ofItem r.toItem = .ok r :=
  ofItem_of_lookup r.get?_toItem

theorem toItem_injective : Function.Injective toItem := by
  intro r s h
  have hread : ofItem r.toItem = ofItem s.toItem := by rw [h]
  simpa using hread

end CallRecord

end CallRegistry
