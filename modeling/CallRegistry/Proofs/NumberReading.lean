import Mathlib.Data.List.TakeWhile
import Mathlib.Tactic
import CallRegistry.Number.BoundedDecimal

/-!
# Numbers as they are written

A sign, digits with a point among them, and a power of ten: whatever is written
so is read as a number and not as a special word, by the value of its digits.
It is kept when it has no more than 38 digits and they all stand in reach.
-/

namespace CallRegistry.Decimal

/-- Digits as they are written. -/
def digitText (ds : List (Fin 10)) : List Char :=
  ds.map fun d => Nat.digitChar d.val

/-- The number that digits write. -/
def digitNumber (ds : List (Fin 10)) : Nat :=
  digitsValue (ds.map Fin.val)

inductive WritesSign : List Char → Bool → Prop
  | none : WritesSign [] false
  | plus : WritesSign ['+'] false
  | minus : WritesSign ['-'] true

/-- Digits with at most one point among them: their number, and how many of them
stand behind the point. -/
inductive WritesDigits : List Char → Nat → Nat → Prop
  | whole (ds : List (Fin 10)) (hds : ds ≠ []) :
      WritesDigits (digitText ds) (digitNumber ds) 0
  | pointed (ws fs : List (Fin 10)) (hds : ws ++ fs ≠ []) :
      WritesDigits (digitText ws ++ '.' :: digitText fs) (digitNumber (ws ++ fs))
        fs.length

/-- A power of ten, if one is written. -/
inductive WritesPower : List Char → Int → Prop
  | none : WritesPower [] 0
  | power {mark : Char} (hmark : mark = 'e' ∨ mark = 'E') {sign : List Char}
      {negative : Bool} (hsign : WritesSign sign negative)
      (ds : List (Fin 10)) (hds : ds ≠ []) :
      WritesPower (mark :: (sign ++ digitText ds))
        (if negative then -(digitNumber ds : Int) else digitNumber ds)

/-- A text writes a number of this sign and of the magnitude `c * 10 ^ e`. -/
inductive Writes : String → Bool → Nat → Int → Prop
  | intro {sign digits power : List Char} {negative : Bool} {c places : Nat}
      {e : Int} (hsign : WritesSign sign negative)
      (hdigits : WritesDigits digits c places) (hpower : WritesPower power e) :
      Writes (String.ofList (sign ++ (digits ++ power))) negative c (e - places)

/-! ## Reading what is written -/

theorem decimalDigit?_digitChar (d : Fin 10) :
    Text.decimalDigit? (Nat.digitChar d.val) = some d.val := by
  revert d
  decide

theorem allDigits?_digitText (ds : List (Fin 10)) :
    allDigits? (digitText ds) = some (ds.map Fin.val) := by
  induction ds with
  | nil => rfl
  | cons d ds ih =>
      simp only [allDigits?, digitText] at ih
      simp only [allDigits?, digitText, List.map_cons, List.mapM_cons,
        decimalDigit?_digitChar, ih]
      rfl

theorem mem_digitText_iff {ds : List (Fin 10)} {x : Char} :
    x ∈ digitText ds ↔ ∃ d ∈ ds, Nat.digitChar d.val = x := by
  simp [digitText]

theorem not_mem_digitText {x : Char} (hx : x ∈ ['.', '+', '-', 'e', 'E'])
    (ds : List (Fin 10)) : x ∉ digitText ds := by
  have hdigit : ∀ d : Fin 10,
      Nat.digitChar d.val ∉ ['.', '+', '-', 'e', 'E'] := by decide
  intro hmem
  obtain ⟨d, -, heq⟩ := mem_digitText_iff.mp hmem
  exact hdigit d (heq ▸ hx)

theorem digitText_ne_nil {ds : List (Fin 10)} (hds : ds ≠ []) :
    digitText ds ≠ [] := by
  simpa [digitText] using hds

/-- A point or a digit. -/
def IsFigure (c : Char) : Prop :=
  c = '.' ∨ ∃ d : Fin 10, Nat.digitChar d.val = c

theorem IsFigure.toLower_notMem {c : Char} (h : IsFigure c) :
    c.toLower ∉ ['i', 'n', 's'] ∧ c ∉ ['+', '-', 'e', 'E'] := by
  have hdigit : ∀ d : Fin 10,
      (Nat.digitChar d.val).toLower ∉ ['i', 'n', 's'] ∧
        Nat.digitChar d.val ∉ ['+', '-', 'e', 'E'] := by decide
  rcases h with rfl | ⟨d, rfl⟩
  · decide
  · exact hdigit d

namespace WritesDigits

variable {digits : List Char} {c places : Nat}

theorem ne_nil (h : WritesDigits digits c places) : digits ≠ [] := by
  cases h with
  | whole ds hds => exact digitText_ne_nil hds
  | pointed => simp

theorem isFigure (h : WritesDigits digits c places) :
    ∀ x ∈ digits, IsFigure x := by
  have hdigits : ∀ (ds : List (Fin 10)), ∀ x ∈ digitText ds, IsFigure x := by
    intro ds x hx
    obtain ⟨d, -, heq⟩ := mem_digitText_iff.mp hx
    exact Or.inr ⟨d, heq⟩
  cases h with
  | whole => exact hdigits _
  | pointed =>
      intro x hx
      simp only [List.mem_append, List.mem_cons] at hx
      rcases hx with hx | rfl | hx
      · exact hdigits _ x hx
      · exact Or.inl rfl
      · exact hdigits _ x hx

theorem coefficient?_eq (h : WritesDigits digits c places) :
    coefficient? digits = some (c, places) := by
  have hfigures : ∀ (ds : List (Fin 10)), ∀ x ∈ digitText ds,
      decide (x ≠ '.') = true := by
    intro ds x hx
    rw [decide_eq_true_iff]
    rintro rfl
    exact not_mem_digitText (by simp) ds hx
  have hvalue : ∀ (ds : List (Fin 10)), ds.map Fin.val = [] ↔ ds = [] := by
    simp
  cases h with
  | whole ds hds =>
      have htake : (digitText ds).takeWhile (· ≠ '.') = digitText ds :=
        List.takeWhile_eq_self_iff.mpr (hfigures ds)
      have hdrop : (digitText ds).dropWhile (· ≠ '.') = [] :=
        List.dropWhile_eq_nil_iff.mpr (hfigures ds)
      have hnone : allDigits? [] = some [] := rfl
      simp only [coefficient?, htake, hdrop, List.drop_nil, allDigits?_digitText,
        hnone, List.isEmpty_iff, hvalue]
      simp [hds, digitNumber]
  | pointed ws fs hds =>
      have htake : (digitText ws ++ '.' :: digitText fs).takeWhile (· ≠ '.') =
          digitText ws := by
        rw [List.takeWhile_append_of_pos (hfigures ws)]
        simp
      have hdrop : (digitText ws ++ '.' :: digitText fs).dropWhile (· ≠ '.') =
          '.' :: digitText fs := by
        rw [List.dropWhile_append_of_pos (hfigures ws)]
        simp
      have hne : ¬ (ws = [] ∧ fs = []) := by simpa using hds
      simp only [coefficient?, htake, hdrop, List.drop_succ_cons, List.drop_zero,
        allDigits?_digitText, List.isEmpty_iff, hvalue]
      simp [hne, digitNumber]

end WritesDigits

theorem exponent?_eq {sign : List Char} {negative : Bool}
    (hsign : WritesSign sign negative) {ds : List (Fin 10)} (hds : ds ≠ []) :
    exponent? (sign ++ digitText ds) =
      some (if negative then -(digitNumber ds : Int) else digitNumber ds) := by
  have hread : allDigits? (digitText ds) = some (ds.map Fin.val) :=
    allDigits?_digitText ds
  obtain ⟨d, rest, rfl⟩ := List.exists_cons_of_ne_nil hds
  rw [List.map_cons] at hread
  cases hsign with
  | none =>
      have hfirst : ∀ x ∈ ['.', '+', '-', 'e', 'E'], ∀ more,
          digitText (d :: rest) ≠ x :: more := by
        intro x hx more heq
        have hmem : x ∈ digitText (d :: rest) := by simp [heq]
        exact not_mem_digitText hx _ hmem
      simp only [List.nil_append]
      unfold exponent?
      split
      next more heq => exact absurd heq (hfirst '+' (by simp) more)
      next more heq => exact absurd heq (hfirst '-' (by simp) more)
      next => simp [hread, digitNumber]
  | plus => simp [exponent?, hread, digitNumber]
  | minus => simp [exponent?, hread, digitNumber]

/-- What is written is read by its value. -/
theorem unsigned?_of_writes {digits power : List Char} {c places : Nat}
    {e : Int} (hdigits : WritesDigits digits c places)
    (hpower : WritesPower power e) (negative : Bool) :
    unsigned? negative (digits ++ power) = some (fit negative c (e - places)) := by
  obtain ⟨first, more, rfl⟩ := List.exists_cons_of_ne_nil hdigits.ne_nil
  have hlower := (hdigits.isFigure first (by simp)).toLower_notMem.1
  simp only [List.mem_cons, List.not_mem_nil, or_false, not_or] at hlower
  have hinside : ∀ x ∈ first :: more, decide (x ≠ 'e' ∧ x ≠ 'E') = true := by
    intro x hx
    have hmark := (hdigits.isFigure x hx).toLower_notMem.2
    simp only [List.mem_cons, List.not_mem_nil, or_false, not_or] at hmark
    exact decide_eq_true hmark.2.2
  have hbody : ((first :: more) ++ power).takeWhile
      (fun x => x ≠ 'e' ∧ x ≠ 'E') = first :: more := by
    rw [List.takeWhile_append_of_pos hinside]
    cases hpower with
    | none => simp
    | power hmark => rcases hmark with rfl | rfl <;> simp
  have htail : ((first :: more) ++ power).dropWhile
      (fun x => x ≠ 'e' ∧ x ≠ 'E') = power := by
    rw [List.dropWhile_append_of_pos hinside]
    cases hpower with
    | none => simp
    | power hmark => rcases hmark with rfl | rfl <;> simp
  have hvalue : (if power.isEmpty then some 0 else exponent? (power.drop 1)) =
      some e := by
    cases hpower with
    | none => rfl
    | power _ hsign ds hds => simp [exponent?_eq hsign hds]
  unfold unsigned?
  simp only [hbody, htail, hvalue, hdigits.coefficient?_eq]
  have hinf : "inf".toList = ['i', 'n', 'f'] := rfl
  have hinfinity : "infinity".toList = 'i' :: "nfinity".toList := rfl
  have hnan : "nan".toList = ['n', 'a', 'n'] := rfl
  have hsnan : "snan".toList = ['s', 'n', 'a', 'n'] := rfl
  simp [hinf, hinfinity, hnan, hsnan, hlower]

/-- A text that writes a number is read as that number. -/
theorem ofText_of_writes {s : String} {negative : Bool} {c : Nat} {e : Int}
    (h : Writes s negative c e) : ofText s = fit negative c e := by
  obtain ⟨hsign, hdigits, hpower⟩ := h
  have hread := unsigned?_of_writes hdigits hpower
  unfold ofText
  rw [String.toList_ofList]
  cases hsign with
  | none =>
      obtain ⟨first, more, rfl⟩ := List.exists_cons_of_ne_nil hdigits.ne_nil
      have hmark := (hdigits.isFigure first (by simp)).toLower_notMem.2
      simp only [List.mem_cons, List.not_mem_nil, or_false, not_or] at hmark
      simp only [List.nil_append, List.cons_append] at hread ⊢
      split
      next heq => exact absurd (List.cons.inj heq).1 hmark.1
      next heq => exact absurd (List.cons.inj heq).1 hmark.2.1
      next => rw [hread, Option.getD_some]
  | plus => simp [hread]
  | minus => simp [hread]

/-! ## Numbers that are kept -/

/-- No more than 38 digits are written, none of them behind the 165th place, and
the number stays below `10 ^ 126`. -/
structure InReach (c : Nat) (e : Int) : Prop where
  digits : digitCount c ≤ 38
  last : -165 ≤ e
  first : e + digitCount c ≤ 126

theorem digitCount_pos (c : Nat) : 0 < digitCount c := by
  unfold digitCount
  exact Nat.length_toDigits_pos

theorem signals_of_inReach {c : Nat} {e : Int} (h : InReach c e) :
    signals c e = [] := by
  have hpos := digitCount_pos c
  have hdigits := h.digits
  have hlast := h.last
  have hfirst := h.first
  unfold signals maxLeading minLast minLeading maxDigits
  split
  next =>
    rw [if_neg]
    omega
  next =>
    rw [if_neg (by omega)]
    split
    next => rw [if_neg (by omega)]
    next => rfl

theorem fit_of_inReach {c : Nat} {e : Int} (h : InReach c e)
    (negative : Bool) : fit negative c e = .ok (.finite negative c e) := by
  simp [fit, signals_of_inReach h]

end CallRegistry.Decimal
