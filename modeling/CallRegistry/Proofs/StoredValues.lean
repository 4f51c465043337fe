import CallRegistry.Proofs.ItemReading
import CallRegistry.Proofs.NumberReading

/-!
# Values that a table holds

The service keeps values of ten types and nests lists and maps up to a number of
levels.  A value it keeps is read without a fault if the numbers in it are, so
the only doubt about an item of the table is in its numbers.
-/

namespace CallRegistry

open Decimal (Writes InReach digitCount)

/-- What the service keeps of numbers: zero, or no more than 38 significant
digits and a magnitude from `10 ^ -130` up to `10 ^ 126`. -/
def Decimal.IsKept (c : Nat) (e : Int) : Prop :=
  c = 0 ∨ (∃ m k : Nat, c = m * 10 ^ k ∧ m < 10 ^ 38) ∧
    -130 < e + digitCount c ∧ e + digitCount c ≤ 126

/-- A text of a number that the service keeps. -/
def KeptNumber (s : String) : Prop :=
  ∃ negative c e, Writes s negative c e ∧ Decimal.IsKept c e

/-- A text of a number that is read without loss. -/
def NumberInReach (s : String) : Prop :=
  ∃ negative c e, Writes s negative c e ∧ InReach c e

namespace Attribute

variable {Number : String → Prop} {room : Option ℕ}

/-- The values that are kept, with lists and maps up to some levels deep, where
the numbers are of a kind. -/
inductive Stored (Number : String → Prop) : Nat → Datum → Prop
  | text {levels : Nat} (s : String) : Stored Number levels (ofText s)
  | number {levels : Nat} {s : String} (hs : Number s) :
      Stored Number levels (.map [("N", .text s)])
  | binary {levels : Nat} (b : List UInt8) :
      Stored Number levels (.map [("B", .bytes b)])
  | truth {levels : Nat} (b : Bool) :
      Stored Number levels (.map [("BOOL", .bool b)])
  | absent {levels : Nat} : Stored Number levels (.map [("NULL", .bool true)])
  | textSet {levels : Nat} (ss : List String) :
      Stored Number levels (.map [("SS", .list (ss.map .text))])
  | numberSet {levels : Nat} {ss : List String} (hss : ∀ s ∈ ss, Number s) :
      Stored Number levels (.map [("NS", .list (ss.map .text))])
  | binarySet {levels : Nat} (bs : List (List UInt8)) :
      Stored Number levels (.map [("BS", .list (bs.map .bytes))])
  | list {levels : Nat} {xs : List Datum}
      (hxs : ∀ x ∈ xs, Stored Number levels x) :
      Stored Number (levels + 1) (.map [("L", .list xs)])
  | map {levels : Nat} {es : List (String × Datum)}
      (hes : ∀ e ∈ es, Stored Number levels e.2) :
      Stored Number (levels + 1) (.map [("M", .map es)])

theorem number_of_inReach {s : String} (hs : NumberInReach s) :
    ∃ n, number (.text s) = .ok n ∧ n ≠ .notANumber true := by
  obtain ⟨negative, c, e, hwrites, hreach⟩ := hs
  refine ⟨.finite negative c e, ?_, by simp⟩
  rw [number, Decimal.ofText_of_writes hwrites,
    Decimal.fit_of_inReach hreach]
  rfl

theorem numberMember_of_inReach {s : String} (hs : NumberInReach s) :
    numberMember (.text s) = .ok () := by
  obtain ⟨n, hn, hne⟩ := number_of_inReach hs
  unfold numberMember
  rw [hn]
  cases n with
  | notANumber signaling => cases signaling <;> simp_all
  | infinite | finite => rfl

theorem setMembers_eq_ok {member : Datum → Except AttributeFault Unit}
    {xs : List Datum} (hxs : ∀ x ∈ xs, member x = .ok ()) :
    setMembers member (.list xs) = .ok () := by
  unfold setMembers
  simp only [Datum.members?]
  induction xs with
  | nil => rfl
  | cons x xs ih =>
      have hrest := ih fun y hy => hxs y (by simp [hy])
      change (member x >>= fun _ => xs.forM member) = .ok ()
      rw [hxs x (by simp), hrest]
      rfl

/-- There is room for so many levels. -/
def Leaves (room : Option ℕ) (levels : ℕ) : Prop :=
  ∀ n, room = some n → levels ≤ n

theorem leaves_none (levels : ℕ) : Leaves none levels :=
  fun n hn => by cases hn

/-- Where there is room for one level more, it is there one level down. -/
theorem Leaves.descend {levels : ℕ} (h : Leaves room (levels + 1)) :
    ∃ below, descend room = .ok below ∧ Leaves below levels := by
  cases room with
  | none => exact ⟨none, rfl, leaves_none levels⟩
  | some n =>
      obtain ⟨m, rfl⟩ :=
        Nat.exists_eq_add_one.mpr (levels.succ_pos.trans_le (h n rfl))
      refine ⟨some m, rfl, fun n hn => ?_⟩
      cases hn
      exact Nat.le_of_succ_le_succ (h _ rfl)

theorem readAll_of_forall {xs : List Datum} {below : Option ℕ}
    (hbelow : descend room = .ok below)
    (hxs : ∀ x ∈ xs, ∃ o, read x below = .ok o) : readAll xs room = .ok none := by
  induction xs with
  | nil => rfl
  | cons x xs ih =>
      obtain ⟨o, ho⟩ := hxs x (by simp)
      rw [readAll, hbelow]
      dsimp only
      rw [ho]
      exact ih fun y hy => hxs y (by simp [hy])

theorem readEntries_of_forall {es : List (String × Datum)} {below : Option ℕ}
    (hbelow : descend room = .ok below)
    (hes : ∀ e ∈ es, ∃ o, read e.2 below = .ok o) :
    readEntries es room = .ok none := by
  induction es with
  | nil => rfl
  | cons e es ih =>
      obtain ⟨o, ho⟩ := hes e (by simp)
      rw [readEntries, hbelow]
      dsimp only
      rw [ho]
      exact ih fun y hy => hes y (by simp [hy])

theorem read_single (type : AttributeType) {tag : String} {content : Datum}
    (htype : AttributeType.ofName? tag = some type) :
    read (.map [(tag, content)]) room = readContent type content room := by
  rw [read, htype]

theorem readContent_set {member : Datum → Except AttributeFault Unit}
    {α : Type} {xs : List α} {wrap : α → Datum}
    (hxs : ∀ x ∈ xs, member (wrap x) = .ok ()) :
    (setMembers member (.list (xs.map wrap))).map (fun _ => none) =
      .ok (none : Option String) := by
  rw [setMembers_eq_ok (by simpa using hxs)]
  rfl

/-- A value that is kept is read without a fault if its numbers are in reach and
there is room for its levels. -/
theorem read_of_stored {levels : Nat} {value : Datum}
    (h : Stored NumberInReach levels value) (hroom : Leaves room levels) :
    ∃ o, read value room = .ok o := by
  induction h generalizing room with
  | text s => exact ⟨some s, read_single .text (by decide)⟩
  | number hs =>
      obtain ⟨n, hn, -⟩ := number_of_inReach hs
      refine ⟨none, ?_⟩
      rw [read_single .number (by decide), readContent, hn]
  | binary b => exact ⟨none, read_single .binary (by decide)⟩
  | truth b => exact ⟨none, read_single .truth (by decide)⟩
  | absent => exact ⟨none, read_single .absent (by decide)⟩
  | textSet ss =>
      refine ⟨none, ?_⟩
      rw [read_single .textSet (by decide), readContent]
      exact readContent_set fun s _ => rfl
  | numberSet hss =>
      refine ⟨none, ?_⟩
      rw [read_single .numberSet (by decide), readContent]
      exact readContent_set fun s hs => numberMember_of_inReach (hss s hs)
  | binarySet bs =>
      refine ⟨none, ?_⟩
      rw [read_single .binarySet (by decide), readContent]
      exact readContent_set fun b _ => rfl
  | list hxs ih =>
      refine ⟨none, ?_⟩
      obtain ⟨below, hbelow, hleaves⟩ := hroom.descend
      rw [read_single .list (by decide), readContent]
      exact readAll_of_forall hbelow fun x hx => ih x hx hleaves
  | map hes ih =>
      refine ⟨none, ?_⟩
      obtain ⟨below, hbelow, hleaves⟩ := hroom.descend
      rw [read_single .map (by decide), readContent]
      exact readEntries_of_forall hbelow fun e he => ih e he hleaves

end Attribute

namespace CallRecord

/-- An item that is kept: its attributes are, with lists and maps up to 32 levels
deep, where the numbers are of a kind. -/
def StoredItem (Number : String → Prop) (item : Datum) : Prop :=
  ∃ entries, item = .map entries ∧
    ∀ e ∈ entries, Attribute.Stored Number 32 e.2

/-- An item that is kept and is no record is corrupt in an expected way, if there is
room for its levels. -/
theorem StoredItem.isExpected {item : Datum} {fault : ItemFault}
    {room : Option ℕ} (hitem : StoredItem NumberInReach item)
    (hroom : Attribute.Leaves room 32)
    (hfault : ofItem item room = .error fault) :
    fault.sort.isExpected = true := by
  obtain ⟨entries, rfl, hentries⟩ := hitem
  rcases ofItem_map_eq_error hfault with
    ⟨f, rfl⟩ | ⟨f, rfl⟩ | ⟨f, value, cause, hlookup, hread, -⟩
  · rfl
  · rfl
  · obtain ⟨before, after, rfl, -⟩ := List.lookup_eq_some_iff.mp hlookup
    have hstored := hentries (f.attributeName, value) (by simp)
    obtain ⟨o, ho⟩ := Attribute.read_of_stored hstored hroom
    rw [hread] at ho
    contradiction

end CallRecord

end CallRegistry
