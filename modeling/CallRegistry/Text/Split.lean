/-!
# Pieces of a text

A text is cut at every occurrence of a mark.  The pieces hold no mark, there is
one more of them than there are marks, and put together with the mark between
them they are the text again.
-/

namespace CallRegistry.Text

/-- The pieces of a text between the occurrences of a mark. -/
def pieces (mark : Char) : List Char → List (List Char)
  | [] => [[]]
  | c :: rest =>
    if c = mark then [] :: pieces mark rest
    else
      match pieces mark rest with
      | [] => [[c]]
      | piece :: more => (c :: piece) :: more

theorem pieces_ne_nil (mark : Char) (cs : List Char) : pieces mark cs ≠ [] := by
  cases cs with
  | nil => simp [pieces]
  | cons c rest =>
    unfold pieces
    split
    · simp
    · split <;> simp

/-- The pieces make up the text. -/
theorem intercalate_pieces (mark : Char) (cs : List Char) :
    [mark].intercalate (pieces mark cs) = cs := by
  induction cs with
  | nil => rfl
  | cons c rest ih =>
    unfold pieces
    split
    · rename_i hc
      subst hc
      cases hp : pieces c rest with
      | nil => exact absurd hp (pieces_ne_nil c rest)
      | cons piece more =>
        rw [hp] at ih
        simpa [List.intercalate_cons_cons] using ih
    · cases hp : pieces mark rest with
      | nil => exact absurd hp (pieces_ne_nil mark rest)
      | cons piece more =>
        rw [hp] at ih
        cases more with
        | nil => simpa using ih
        | cons next others =>
          simp only [List.intercalate_cons_cons] at ih ⊢
          rw [← ih]
          simp

theorem notMem_of_mem_pieces {mark : Char} {cs piece : List Char}
    (h : piece ∈ pieces mark cs) : mark ∉ piece := by
  induction cs generalizing piece with
  | nil =>
    simp only [pieces, List.mem_singleton] at h
    simp [h]
  | cons c rest ih =>
    unfold pieces at h
    split at h
    · rcases List.mem_cons.mp h with rfl | h
      · simp
      · exact ih h
    · rename_i hc
      cases hp : pieces mark rest with
      | nil => exact absurd hp (pieces_ne_nil mark rest)
      | cons first more =>
        rw [hp] at h ih
        rcases List.mem_cons.mp h with rfl | h
        · have := ih (List.mem_cons_self ..)
          simp [this, Ne.symm hc]
        · exact ih (List.mem_cons_of_mem _ h)

end CallRegistry.Text
