import CallRegistry.Proofs.StoredValues
import CallRegistry.Store.Failure

/-!
# Items that hold no record

An item that lacks one of the five attributes, or has one that gives no text or an
empty one, is never read as a record.  Reading stops at the first fault.  Most
faults are reported as a failed conversion; what escapes is a number that cannot be
kept, a part of a number beyond 64 bits, a value that is no map where a value should
be, a map value whose content is no map, and a value that lies too deep to be gone
into.  `CallRecord.Breaks` tells from an item whether such a fault comes first, however
deep it lies and however much room there is.
-/

namespace CallRegistry

section Fails

variable {ε ε' α β : Type} {P : ε → Prop} {f : α → Except ε Unit} {x : α}
  {xs : List α}

theorem forM_of_ok (hx : f x = .ok ()) : (x :: xs).forM f = xs.forM f := by
  change (f x >>= fun _ => xs.forM f) = _
  rw [hx]
  rfl

theorem forM_of_error {e : ε} (hx : f x = .error e) :
    (x :: xs).forM f = .error e := by
  change (f x >>= fun _ => xs.forM f) = _
  rw [hx]
  rfl

/-- The computation fails, and its fault is of a kind. -/
def FailsWith (P : ε → Prop) (x : Except ε α) : Prop :=
  ∃ e, x = .error e ∧ P e

@[simp] theorem failsWith_error {e : ε} :
    FailsWith P (.error e : Except ε α) ↔ P e := by
  simp [FailsWith]

@[simp] theorem not_failsWith_ok {a : α} : ¬ FailsWith P (.ok a) := by
  simp [FailsWith]

@[simp] theorem failsWith_map {x : Except ε α} {f : α → β} :
    FailsWith P (x.map f) ↔ FailsWith P x := by
  cases x <;> simp [Except.map]

@[simp] theorem failsWith_mapError {x : Except ε' α} {f : ε' → ε} :
    FailsWith P (x.mapError f) ↔ FailsWith (fun e => P (f e)) x := by
  cases x <;> simp [Except.mapError]

theorem failsWith_bind {x : Except ε α} {f : α → Except ε β} :
    FailsWith P (x >>= f) ↔
      FailsWith P x ∨ ∃ a, x = .ok a ∧ FailsWith P (f a) := by
  cases x <;> simp [bind, Except.bind]

/-- The one computation stops at a fault that the other does not have, or it comes to
the same. -/
def Agrees (fault : ε) (x y : Except ε α) : Prop :=
  x = .error fault ∨ x = y

theorem Agrees.bind {fault : ε} {x y : Except ε α} {f g : α → Except ε β}
    (h : Agrees fault x y) (hf : ∀ a, Agrees fault (f a) (g a)) :
    Agrees fault (x >>= f) (y >>= g) := by
  rcases h with rfl | rfl
  · exact .inl rfl
  · cases x with
    | error e => exact .inr rfl
    | ok a => exact hf a

/-- Steps one after another fail as the first of them that fails. -/
theorem failsWith_forM :
    FailsWith P (xs.forM f) ↔
      ∃ before x later, xs = before ++ x :: later ∧
        (∀ y ∈ before, f y = .ok ()) ∧ FailsWith P (f x) := by
  constructor
  · intro hfails
    induction xs with
    | nil => exact absurd hfails not_failsWith_ok
    | cons x xs ih =>
        cases hx : f x with
        | error e =>
            rw [forM_of_error hx] at hfails
            exact ⟨[], x, xs, rfl, by simp, hx ▸ hfails⟩
        | ok u =>
            rw [forM_of_ok hx] at hfails
            obtain ⟨before, y, later, rfl, hbefore, hy⟩ := ih hfails
            refine ⟨x :: before, y, later, rfl, ?_, hy⟩
            exact List.forall_mem_cons.mpr ⟨hx, hbefore⟩
  · rintro ⟨before, x, later, rfl, hbefore, e, hx, he⟩
    induction before with
    | nil =>
        rw [List.nil_append, forM_of_error hx]
        exact failsWith_error.mpr he
    | cons y before ih =>
        rw [List.forall_mem_cons] at hbefore
        rw [List.cons_append, forM_of_ok hbefore.1]
        exact ih hbefore.2

end Fails

/-- The letters of a type as the service writes them. -/
def AttributeType.letters : AttributeType → String
  | .text => "S"
  | .number => "N"
  | .binary => "B"
  | .truth => "BOOL"
  | .absent => "NULL"
  | .textSet => "SS"
  | .numberSet => "NS"
  | .binarySet => "BS"
  | .list => "L"
  | .map => "M"

theorem AttributeType.ofName?_eq_iff {tag : String} {type : AttributeType} :
    ofName? tag = some type ↔ Text.SameLetters tag type.letters := by
  cases type <;>
    simp [ofName?_eq_some_iff, names, letters, Text.SameLetters]

/-- A fault that nothing provides for. -/
def AttributeFault.IsUnforeseen (fault : AttributeFault) : Prop :=
  fault.sort.isExpected = false

namespace Attribute

variable {room : Option ℕ}

/-- Reads a value that is nested in another one, for its faults alone. -/
def check (room : Option ℕ) (v : Datum) : Except AttributeFault Unit :=
  descend room >>= fun below => (read v below).map fun _ => ()

theorem check_eq_ok_iff {v : Datum} :
    check room v = .ok () ↔
      ∃ below text, descend room = .ok below ∧ read v below = .ok text := by
  unfold check
  cases descend room with
  | error cause => simp [bind, Except.bind]
  | ok below => cases hread : read v below <;> simp [bind, Except.bind, Except.map, hread]

theorem readAll_cons (x : Datum) (xs : List Datum) :
    readAll (x :: xs) room = (check room x >>= fun _ => readAll xs room) := by
  rw [readAll, check]
  cases descend room with
  | error cause => rfl
  | ok below =>
      cases hx : read x below <;> simp [bind, Except.bind, Except.map, hx]

theorem readAll_eq (xs : List Datum) :
    readAll xs room = (xs.forM (check room)).map fun _ => none := by
  induction xs with
  | nil => rfl
  | cons x xs ih =>
      rw [readAll_cons, ih]
      cases hx : check room x with
      | error cause => rw [forM_of_error hx]; rfl
      | ok u => rw [forM_of_ok hx]; rfl

theorem readEntries_eq (es : List (String × Datum)) :
    readEntries es room = readAll (es.map Prod.snd) room := by
  induction es with
  | nil => rfl
  | cons e es ih => rw [readEntries, List.map_cons, readAll, ih]

theorem read_bare {v : Datum} (hbare : ∀ es, v ≠ .map es) :
    read v room = .error (bareFault v) := by
  cases v with
  | map es => exact absurd rfl (hbare es)
  | _ => rfl

theorem isUnforeseen_bareFault {v : Datum} :
    (bareFault v).IsUnforeseen ↔ v.isVoid = false := by
  unfold bareFault AttributeFault.IsUnforeseen
  cases v.isVoid <;> simp [AttributeFault.sort, FaultSort.isExpected]

theorem bare_of_mem {content x : Datum} {xs : List Datum}
    (hcontent : ∀ ys, content ≠ .list ys) (hmembers : content.members? = some xs)
    (hx : x ∈ xs) : ∀ es, x ≠ .map es := by
  rintro es rfl
  cases content with
  | list ys => exact hcontent ys rfl
  | text | bytes | map =>
      obtain rfl := Option.some.inj hmembers
      simp at hx
  | _ => simp [Datum.members?] at hmembers

theorem bareMembers_eq {content : Datum} (hcontent : ∀ ys, content ≠ .list ys) :
    bareMembers content room = setMembers (check room) content := by
  unfold bareMembers setMembers
  cases hmembers : content.members? with
  | none => rfl
  | some xs =>
      cases xs with
      | nil => rfl
      | cons x xs =>
          have hbare := bare_of_mem hcontent hmembers List.mem_cons_self
          -- The members behind the first one are never come to.
          cases hroom : descend room with
          | error cause =>
              have hcheck : check room x = .error cause := by rw [check, hroom]; rfl
              exact (forM_of_error hcheck).symm
          | ok below =>
              have hcheck : check room x = .error (bareFault x) := by
                rw [check, hroom]
                simp [bind, Except.bind, Except.map, read_bare hbare]
              exact (forM_of_error hcheck).symm

theorem readContent_list (content : Datum) :
    readContent .list content room =
      (setMembers (check room) content).map fun _ => none := by
  cases content with
  | list xs => exact readAll_eq xs
  | _ =>
      rw [← bareMembers_eq (by simp)]
      rfl

/-! ## Faults that nothing provides for -/

/-- A number that cannot be kept as it is, or that is given in parts of which one is
beyond 64 bits. -/
def NumberBreaks (d : Datum) : Prop :=
  (∃ signals, number d = .error (.lost signals)) ∨
    ∃ isExponent, number d = .error (.beyondWord isExponent)

/-- The values in a list or in a map value.  A list may have any content that can be
gone through. -/
inductive Nests : Datum → List Datum → Prop
  | list {tag : String} {content : Datum} {rest : List (String × Datum)}
      {xs : List Datum} (htag : Text.SameLetters tag "L")
      (hmembers : content.members? = some xs) :
      Nests (.map ((tag, content) :: rest)) xs
  | map {tag : String} {es rest : List (String × Datum)}
      (htag : Text.SameLetters tag "M") :
      Nests (.map ((tag, .map es) :: rest)) (es.map Prod.snd)

/-- The first fault in reading a value is one that nothing provides for. -/
inductive Breaks : Option ℕ → Datum → Prop
  | bare {room : Option ℕ} {v : Datum} (hbare : ∀ es, v ≠ .map es)
      (hvoid : v.isVoid = false) : Breaks room v
  | noEntries {room : Option ℕ} {tag : String} {content : Datum}
      {rest : List (String × Datum)} (htag : Text.SameLetters tag "M")
      (hcontent : ∀ es, content ≠ .map es) :
      Breaks room (.map ((tag, content) :: rest))
  | number {room : Option ℕ} {tag : String} {content : Datum}
      {rest : List (String × Datum)} (htag : Text.SameLetters tag "N")
      (hcontent : NumberBreaks content) :
      Breaks room (.map ((tag, content) :: rest))
  | numberSet {room : Option ℕ} {tag : String} {content x : Datum}
      {rest : List (String × Datum)} {before later : List Datum}
      (htag : Text.SameLetters tag "NS")
      (hmembers : content.members? = some (before ++ x :: later))
      (hbefore : ∀ y ∈ before, numberMember y = .ok ())
      (hx : NumberBreaks x) :
      Breaks room (.map ((tag, content) :: rest))
  /-- There is no room for what is nested in the value. -/
  | tooDeep {v x : Datum} {xs : List Datum} (hnests : Nests v (x :: xs)) :
      Breaks (some 0) v
  | nested {room below : Option ℕ} {v x : Datum} {before later : List Datum}
      (hnests : Nests v (before ++ x :: later))
      (hbelow : descend room = .ok below)
      (hbefore : ∀ y ∈ before, ∃ text, read y below = .ok text)
      (hx : Breaks below x) : Breaks room v

theorem isUnforeseen_number {fault : NumberFault} :
    (AttributeFault.number fault).IsUnforeseen ↔
      (∃ signals, fault = .lost signals) ∨
        ∃ isExponent, fault = .beyondWord isExponent := by
  unfold AttributeFault.IsUnforeseen AttributeFault.sort
  cases fault with
  | lost signals =>
      cases signals <;> simp [NumberFault.sort, FaultSort.isExpected]
  | _ => simp [NumberFault.sort, FaultSort.isExpected]

theorem failsWith_number {d : Datum} :
    FailsWith (fun fault => (AttributeFault.number fault).IsUnforeseen)
      (number d) ↔ NumberBreaks d := by
  unfold NumberBreaks
  cases number d <;> simp [isUnforeseen_number]

theorem failsWith_numberMember {d : Datum} :
    FailsWith AttributeFault.IsUnforeseen (numberMember d) ↔
      NumberBreaks d := by
  rw [← failsWith_number]
  unfold numberMember
  cases number d with
  | error fault => simp
  | ok n =>
      split
      next =>
        simp [AttributeFault.IsUnforeseen, AttributeFault.sort,
          FaultSort.isExpected]
      next => simp
      next h => cases h

theorem failsWith_setMembers {member : Datum → Except AttributeFault Unit}
    {content : Datum} :
    FailsWith AttributeFault.IsUnforeseen (setMembers member content) ↔
      ∃ before x later, content.members? = some (before ++ x :: later) ∧
        (∀ y ∈ before, member y = .ok ()) ∧
        FailsWith AttributeFault.IsUnforeseen (member x) := by
  unfold setMembers
  cases content.members? with
  | none =>
      simp [AttributeFault.IsUnforeseen, AttributeFault.sort,
        FaultSort.isExpected]
  | some xs =>
      simp only [Option.some.injEq]
      exact failsWith_forM

theorem read_tagged (type : AttributeType) {tag : String} {content : Datum}
    {rest : List (String × Datum)} (htag : Text.SameLetters tag type.letters) :
    read (.map ((tag, content) :: rest)) room = readContent type content room := by
  rw [read, AttributeType.ofName?_eq_iff.mpr htag]

theorem failsWith_readContent {type : AttributeType} {content : Datum} :
    FailsWith AttributeFault.IsUnforeseen (readContent type content room) ↔
      match type with
      | .number => NumberBreaks content
      | .numberSet => ∃ before x later,
          content.members? = some (before ++ x :: later) ∧
            (∀ y ∈ before, numberMember y = .ok ()) ∧ NumberBreaks x
      | .list => ∃ xs, content.members? = some xs ∧
          FailsWith AttributeFault.IsUnforeseen (xs.forM (check room))
      | .map => (∀ es, content ≠ .map es) ∨ ∃ es, content = .map es ∧
          FailsWith AttributeFault.IsUnforeseen
            ((es.map Prod.snd).forM (check room))
      | _ => False := by
  have hbinary : ∀ d, ¬ FailsWith AttributeFault.IsUnforeseen (binary d) := by
    rintro d ⟨fault, hfault, hunforeseen⟩
    cases d <;> cases hfault <;> contradiction
  have htext : ∀ d, ¬ FailsWith AttributeFault.IsUnforeseen (textMember d) := by
    rintro d ⟨fault, hfault, hunforeseen⟩
    cases d <;> cases hfault <;> contradiction
  cases type with
  | text | truth | absent => simp [readContent]
  | number =>
      rw [readContent, ← failsWith_number]
      cases number content <;> simp
  | binary => simp [readContent, hbinary]
  | textSet => simp [readContent, failsWith_setMembers, htext]
  | binarySet =>
      simp [readContent, failsWith_setMembers, binaryMember, hbinary]
  | numberSet =>
      simp only [readContent, failsWith_map, failsWith_setMembers,
        failsWith_numberMember]
  | list =>
      rw [readContent_list, failsWith_map, setMembers]
      cases content.members? with
      | none =>
          simp [AttributeFault.IsUnforeseen, AttributeFault.sort,
            FaultSort.isExpected]
      | some xs => simp
  | map =>
      cases content with
      | map es => simp [readContent, readEntries_eq, readAll_eq]
      | _ =>
          simp [readContent, AttributeFault.IsUnforeseen, AttributeFault.sort,
            FaultSort.isExpected]

theorem failsWith_nests {v : Datum} {xs : List Datum} (hnests : Nests v xs) :
    FailsWith AttributeFault.IsUnforeseen (read v room) ↔
      FailsWith AttributeFault.IsUnforeseen (xs.forM (check room)) := by
  cases hnests with
  | list htag hmembers =>
      rw [read_tagged .list htag, failsWith_readContent]
      simp [hmembers]
  | map htag =>
      rw [read_tagged .map htag, failsWith_readContent]
      simp

/-- What lies behind an unforeseen fault: a fault of the value itself, or one of the
values in it. -/
theorem breaks_or_nests {v : Datum}
    (hfails : FailsWith AttributeFault.IsUnforeseen (read v room)) :
    Breaks room v ∨ ∃ xs, Nests v xs ∧
      FailsWith AttributeFault.IsUnforeseen (xs.forM (check room)) := by
  by_cases hmap : ∃ es, v = .map es
  · obtain ⟨es, rfl⟩ := hmap
    match es with
    | [] =>
        rw [read, failsWith_error] at hfails
        contradiction
    | (tag, content) :: rest =>
        cases htype : AttributeType.ofName? tag with
        | none =>
            rw [read, htype, failsWith_error] at hfails
            contradiction
        | some type =>
            have htag := AttributeType.ofName?_eq_iff.mp htype
            rw [read_tagged type htag, failsWith_readContent] at hfails
            cases type with
            | number => exact Or.inl (.number htag hfails)
            | numberSet =>
                obtain ⟨before, x, later, hmembers, hbefore, hx⟩ := hfails
                exact Or.inl (.numberSet htag hmembers hbefore hx)
            | list =>
                obtain ⟨xs, hmembers, hfails⟩ := hfails
                exact Or.inr ⟨xs, .list htag hmembers, hfails⟩
            | map =>
                rcases hfails with hcontent | ⟨es, rfl, hfails⟩
                · exact Or.inl (.noEntries htag hcontent)
                · exact Or.inr ⟨_, .map htag, hfails⟩
            | text | binary | truth | absent | textSet | binarySet =>
                exact absurd hfails id
  · rw [not_exists] at hmap
    rw [read_bare hmap, failsWith_error, isUnforeseen_bareFault] at hfails
    exact Or.inl (.bare hmap hfails)

theorem Nests.smaller {v x : Datum} {xs : List Datum} (hnests : Nests v xs)
    (hx : x ∈ xs) : sizeOf x < sizeOf v ∨ ∀ es, x ≠ .map es := by
  cases hnests with
  | @list tag content rest _ htag hmembers =>
      by_cases hcontent : ∃ ys, content = .list ys
      · left
        obtain ⟨ys, rfl⟩ := hcontent
        obtain rfl := Option.some.inj hmembers
        have hlt := List.sizeOf_lt_of_mem hx
        simp
        omega
      · right
        rw [not_exists] at hcontent
        exact bare_of_mem hcontent hmembers hx
  | @map tag es rest htag =>
      left
      obtain ⟨e, he, rfl⟩ := List.mem_map.mp hx
      have hlt := List.sizeOf_lt_of_mem he
      have hvalue : sizeOf e.2 < sizeOf e := by
        cases e
        simp
      simp
      omega

/-- A nested value fails for want of room, or as it fails one level down. -/
theorem failsWith_check {v : Datum} :
    FailsWith AttributeFault.IsUnforeseen (check room v) ↔
      room = some 0 ∨ ∃ below, descend room = .ok below ∧
        FailsWith AttributeFault.IsUnforeseen (read v below) := by
  unfold check
  rw [failsWith_bind]
  match room with
  | none => simp [descend]
  | some 0 =>
      simp [descend, AttributeFault.IsUnforeseen, AttributeFault.sort,
        FaultSort.isExpected]
  | some (n + 1) => simp [descend]

/-- Values one after another fail as the first of them that fails. -/
theorem failsWith_checks {xs : List Datum} :
    FailsWith AttributeFault.IsUnforeseen (xs.forM (check room)) ↔
      (room = some 0 ∧ xs ≠ []) ∨
      ∃ below before x later, descend room = .ok below ∧
        xs = before ++ x :: later ∧
        (∀ y ∈ before, ∃ text, read y below = .ok text) ∧
        FailsWith AttributeFault.IsUnforeseen (read x below) := by
  rw [failsWith_forM]
  constructor
  · rintro ⟨before, x, later, rfl, hbefore, hx⟩
    rcases failsWith_check.mp hx with hfull | ⟨below, hbelow, hfails⟩
    · exact .inl ⟨hfull, by simp⟩
    · refine .inr ⟨below, before, x, later, hbelow, rfl, fun y hy => ?_, hfails⟩
      obtain ⟨below', text, hbelow', htext⟩ := check_eq_ok_iff.mp (hbefore y hy)
      rw [hbelow] at hbelow'
      cases hbelow'
      exact ⟨text, htext⟩
  · rintro (⟨hfull, hne⟩ | ⟨below, before, x, later, hbelow, rfl, hbefore, hx⟩)
    · obtain ⟨x, xs, rfl⟩ := List.exists_cons_of_ne_nil hne
      exact ⟨[], x, xs, rfl, by simp, failsWith_check.mpr (.inl hfull)⟩
    · refine ⟨before, x, later, rfl, fun y hy => ?_,
        failsWith_check.mpr (.inr ⟨below, hbelow, hx⟩)⟩
      obtain ⟨text, htext⟩ := hbefore y hy
      exact check_eq_ok_iff.mpr ⟨below, text, hbelow, htext⟩

/-- Reading a value has an unforeseen fault exactly where the value breaks. -/
theorem failsWith_read_iff {v : Datum} :
    FailsWith AttributeFault.IsUnforeseen (read v room) ↔ Breaks room v := by
  constructor
  · intro hfails
    induction hsize : sizeOf v using Nat.strong_induction_on
      generalizing v room with
    | _ size ih =>
    rcases breaks_or_nests hfails with hbreaks | ⟨xs, hnests, hfails⟩
    · exact hbreaks
    · rcases failsWith_checks.mp hfails with
        ⟨rfl, hne⟩ | ⟨below, before, x, later, hbelow, rfl, hbefore, hx⟩
      · obtain ⟨x, xs, rfl⟩ := List.exists_cons_of_ne_nil hne
        exact .tooDeep hnests
      · have hbreaks : Breaks below x := by
          rcases hnests.smaller (x := x) (by simp) with hlt | hbare
          · exact ih _ (hsize ▸ hlt) hx rfl
          · rw [read_bare hbare, failsWith_error, isUnforeseen_bareFault] at hx
            exact .bare hbare hx
        exact .nested hnests hbelow hbefore hbreaks
  · intro hbreaks
    induction hbreaks with
    | bare hbare hvoid =>
        rw [read_bare hbare, failsWith_error]
        exact isUnforeseen_bareFault.mpr hvoid
    | noEntries htag hcontent =>
        rw [read_tagged .map htag, failsWith_readContent]
        exact Or.inl hcontent
    | number htag hcontent =>
        rw [read_tagged .number htag, failsWith_readContent]
        exact hcontent
    | numberSet htag hmembers hbefore hx =>
        rw [read_tagged .numberSet htag, failsWith_readContent]
        exact ⟨_, _, _, hmembers, hbefore, hx⟩
    | tooDeep hnests =>
        rw [failsWith_nests hnests, failsWith_checks]
        exact .inl ⟨rfl, by simp⟩
    | nested hnests hbelow hbefore _ ih =>
        rw [failsWith_nests hnests, failsWith_checks]
        exact .inr ⟨_, _, _, _, hbelow, rfl, hbefore, ih⟩

/-! ## How much room there is -/

theorem check_agrees {v : Datum}
    (hv : ∀ below, Agrees .tooDeep (read v below) (read v)) (room : Option ℕ) :
    Agrees .tooDeep (check room v) (check none v) := by
  match room with
  | none => exact .inr rfl
  | some 0 => exact .inl rfl
  | some (n + 1) =>
      rcases hv (some n) with hdeep | hsame
      · exact .inl (by simp [check, descend, bind, Except.bind, hdeep, Except.map])
      · exact .inr (by simp [check, descend, bind, Except.bind, hsame])

theorem readAll_agrees {xs : List Datum}
    (hxs : ∀ x ∈ xs, ∀ below, Agrees .tooDeep (read x below) (read x)) :
    Agrees .tooDeep (readAll xs room) (readAll xs) := by
  induction xs with
  | nil => exact .inr rfl
  | cons x xs ih =>
      rw [List.forall_mem_cons] at hxs
      rw [readAll_cons, readAll_cons]
      exact (check_agrees hxs.1 room).bind fun _ => ih hxs.2

theorem bareMembers_agrees (d : Datum) (room : Option ℕ) :
    Agrees .tooDeep (bareMembers d room) (bareMembers d none) := by
  unfold bareMembers
  split
  · exact .inr rfl
  · match room with
    | none => exact .inr rfl
    | some 0 => exact .inl rfl
    | some (n + 1) => exact .inr rfl
  · exact .inr rfl

theorem readContent_agrees {type : AttributeType} {content : Datum}
    (hcontent : ∀ x, sizeOf x < sizeOf content →
      ∀ below, Agrees .tooDeep (read x below) (read x)) :
    Agrees .tooDeep (readContent type content room) (readContent type content) := by
  cases type with
  | list =>
      cases content with
      | list xs =>
          refine readAll_agrees fun x hx => hcontent x ?_
          have hlt := List.sizeOf_lt_of_mem hx
          simp
          omega
      | _ =>
          simp only [readContent]
          rcases bareMembers_agrees _ room with hdeep | hsame
          · exact .inl (by rw [hdeep]; rfl)
          · exact .inr (by rw [hsame])
  | map =>
      cases content with
      | map es =>
          simp only [readContent, readEntries_eq]
          refine readAll_agrees fun x hx => hcontent x ?_
          obtain ⟨e, he, rfl⟩ := List.mem_map.mp hx
          have hlt := List.sizeOf_lt_of_mem he
          have hvalue : sizeOf e.2 < sizeOf e := by
            cases e
            simp
          simp
          omega
      | _ => exact .inr rfl
  | _ => exact .inr (by simp [readContent])

/-- As long as there is room for a value, it makes no difference how much. -/
theorem read_agrees (v : Datum) (room : Option ℕ) :
    Agrees .tooDeep (read v room) (read v) := by
  induction hsize : sizeOf v using Nat.strong_induction_on
    generalizing v room with
  | _ size ih =>
  match v with
  | .map [] => exact .inr rfl
  | .map ((tag, content) :: rest) =>
      rw [read, read]
      split
      · refine readContent_agrees fun x hx below => ih (sizeOf x) ?_ x below rfl
        subst hsize
        simp
        omega
      · exact .inr rfl
  | .null | .bool _ | .int _ | .real _ | .text _ | .bytes _ | .list _ =>
      exact .inr rfl

end Attribute

namespace CallRecord

variable {entries : List (String × Datum)} {room : Option ℕ}

/-- An attribute is missing, or it gives no text or an empty one. -/
def Corrupt (entries : List (String × Datum)) : Prop :=
  ∃ f : Field, ∀ value s, entries.lookup f.attributeName = some value →
    Attribute.Gives value s → s = ""

/-- The first of the five attributes that is missing or cannot be read is there and
breaks. -/
def Breaks (room : Option ℕ) (entries : List (String × Datum)) : Prop :=
  ∃ before f later, Field.all = before ++ f :: later ∧
    (∀ g ∈ before, ∃ value text,
      entries.lookup g.attributeName = some value ∧
        Attribute.read value room = .ok text) ∧
    ∃ value, entries.lookup f.attributeName = some value ∧
      Attribute.Breaks room value

theorem exists_fault_iff :
    (∃ fault, ofItem (.map entries) room = .error fault) ↔ Corrupt entries := by
  constructor
  · rintro ⟨fault, hfault⟩
    by_contra hcorrupt
    simp only [Corrupt, not_exists, not_forall] at hcorrupt
    choose value s hlookup hgives hne using hcorrupt
    obtain ⟨r, hr⟩ := exists_get_eq hne
    have hread : ofItem (.map entries) room = .ok r := by
      rw [ofItem_eq_ok_iff]
      intro f
      exact ⟨value f, hlookup f, hr f ▸ hgives f⟩
    rw [hread] at hfault
    contradiction
  · rintro ⟨f, hcorrupt⟩
    cases hread : ofItem (.map entries) room with
    | error fault => exact ⟨fault, rfl⟩
    | ok r =>
        obtain ⟨value, hlookup, hgives⟩ := ofItem_eq_ok_iff.mp hread f
        exact absurd (hcorrupt value _ hlookup hgives) (r.get_ne_empty f)

/-- An unforeseen fault of an item is that of an attribute, since the texts are
checked last. -/
theorem failsWith_ofItem {item : Datum} :
    FailsWith (fun fault => fault.sort.isExpected = false)
        (ofItem item room) ↔
      FailsWith (fun fault : ItemFault => fault.sort.isExpected = false)
        (Field.all.forM fun f => (textOfItem item f room).map fun _ => ()) := by
  have hfield : ∀ texts, ¬ FailsWith
      (fun fault => fault.sort.isExpected = false)
      ((ofFields texts).mapError ItemFault.field) := by
    rintro texts ⟨fault, hfault, hunforeseen⟩
    obtain ⟨f, -, rfl⟩ := Except.mapError_eq_error_iff.mp hfault
    contradiction
  have hall : ∀ g : Field → Except ItemFault Unit, Field.all.forM g =
      (g .groupId >>= fun _ => g .callId >>= fun _ => g .backendHost >>=
        fun _ => g .backendRegion >>= fun _ => g .creator >>=
          fun _ => .ok ()) := fun _ => rfl
  rw [hall]
  simp only [ofItem, failsWith_bind, failsWith_map, hfield, not_failsWith_ok,
    and_false, exists_false, or_false]
  have hmap : ∀ (x : Except ItemFault (Option String)) (u : Unit),
      (x.map fun _ => ()) = .ok u ↔ ∃ a, x = .ok a := by
    intro x u
    cases x <;> simp [Except.map]
  simp only [hmap, exists_const, exists_and_right]

theorem failsWith_textOfItem {f : Field} :
    FailsWith (fun fault => fault.sort.isExpected = false)
        (textOfItem (.map entries) f room) ↔
      ∃ value, entries.lookup f.attributeName = some value ∧
        Attribute.Breaks room value := by
  simp only [textOfItem]
  cases entries.lookup f.attributeName with
  | none => simp [ItemFault.sort, FaultSort.isExpected]
  | some value =>
      simp only [failsWith_mapError, Option.some.injEq, exists_eq_left',
        ← Attribute.failsWith_read_iff]
      rfl

theorem textOfItem_agrees (item : Datum) (f : Field) (room : Option ℕ) :
    Agrees (.unreadable .tooDeep) (textOfItem item f room) (textOfItem item f) := by
  cases item with
  | map entries =>
      simp only [textOfItem]
      cases entries.lookup f.attributeName with
      | none => exact .inr rfl
      | some value =>
          rcases Attribute.read_agrees value room with hdeep | hsame
          · exact .inl (by simp [hdeep, Except.mapError])
          · exact .inr (by simp [hsame])
  | _ => exact .inr rfl

/-- An item is read as without a limit, unless the room in it comes to an end. -/
theorem ofItem_agrees (item : Datum) (room : Option ℕ) :
    Agrees (.unreadable .tooDeep) (ofItem item room) (ofItem item) := by
  have htext := fun f => textOfItem_agrees item f room
  exact (htext .groupId).bind fun _ => (htext .callId).bind fun _ =>
    (htext .backendHost).bind fun _ => (htext .backendRegion).bind fun _ =>
      (htext .creator).bind fun _ => .inr rfl

theorem failsWith_iff_breaks :
    FailsWith (fun fault => fault.sort.isExpected = false)
      (ofItem (.map entries) room) ↔ Breaks room entries := by
  have hread : ∀ f,
      ((textOfItem (.map entries) f room).map fun _ => ()) = .ok () ↔
        ∃ value text, entries.lookup f.attributeName = some value ∧
          Attribute.read value room = .ok text := by
    intro f
    simp only [textOfItem]
    cases entries.lookup f.attributeName with
    | none => simp [Except.map]
    | some value =>
        cases hvalue : Attribute.read value room <;>
          simp [Except.mapError, Except.map, hvalue]
  rw [failsWith_ofItem, failsWith_forM]
  simp only [hread, failsWith_map, failsWith_textOfItem, Breaks]

end CallRecord

theorem StoreFailure.isStorage_ofItem_iff {fault : ItemFault} :
    (StoreFailure.ofItem fault).isStorage = true ↔
      fault.sort.isExpected = true := by
  unfold StoreFailure.ofItem
  split
  next hexpected => simp [StoreFailure.isStorage, hexpected]
  next hexpected => simp [StoreFailure.isStorage, hexpected]

namespace CallRecord

/-- An item is no record exactly when it is corrupt, however much room there is for
what is nested in its attributes, and this is announced as a failed conversion exactly
when the first fault in it is none of those that nothing provides for.  Where the room
does not come to an end, the fault is the same as without a limit. -/
theorem corrupt_items (entries : List (String × Datum)) (room : Option ℕ) :
    (Corrupt entries ↔ ∃ fault, ofItem (.map entries) room = .error fault) ∧
    ∀ fault, ofItem (.map entries) room = .error fault →
      ((StoreFailure.ofItem fault).isStorage = true ↔ ¬ Breaks room entries) ∧
      (fault.sort = .depth ∨ ofItem (.map entries) = .error fault) := by
  refine ⟨exists_fault_iff.symm, fun fault hfault => ⟨?_, ?_⟩⟩
  · rw [StoreFailure.isStorage_ofItem_iff, ← failsWith_iff_breaks, hfault,
      failsWith_error, Bool.not_eq_false]
  · rcases ofItem_agrees (.map entries) room with hdeep | hsame
    · rw [hfault] at hdeep
      cases hdeep
      exact .inl rfl
    · exact .inr (hsame.symm.trans hfault)

/-- An item whose creator is a number too great to be kept. -/
def hugeItem : List (String × Datum) :=
  [("groupConferenceId", Attribute.ofText "g"),
    ("jvbConferenceId", Attribute.ofText "c"),
    ("jvbHost", Attribute.ofText "h"), ("region", Attribute.ofText "r"),
    ("creator", .map [("N", .text "1E999")])]

/-- The number behind a missing attribute is not reached, and the item is announced
as corrupt. -/
theorem missing_host_comes_first :
    Corrupt (hugeItem.filter (·.1 != "jvbHost")) ∧
      ¬ Breaks none (hugeItem.filter (·.1 != "jvbHost")) := by
  have hfault : ofItem (.map (hugeItem.filter (·.1 != "jvbHost"))) =
      .error (.missing "jvbHost") := rfl
  obtain ⟨hcorrupt, hannounced⟩ :=
    corrupt_items (hugeItem.filter (·.1 != "jvbHost")) none
  exact ⟨hcorrupt.mpr ⟨_, hfault⟩, (hannounced _ hfault).1.mp rfl⟩

/-- A corrupt item whose fault leaves as an overflow. -/
theorem huge_number_not_announced :
    Corrupt hugeItem ∧ ∃ fault, ofItem (.map hugeItem) = .error fault ∧
      (StoreFailure.ofItem fault).isStorage = false ∧
      fault.sort.name = "Overflow" := by
  have hfault : ofItem (.map hugeItem) = .error (.unreadable (.number
      (.lost [.overflow, .inexact, .rounded]))) := rfl
  exact ⟨exists_fault_iff.mp ⟨_, hfault⟩, _, hfault, rfl, rfl⟩

end CallRecord

end CallRegistry
