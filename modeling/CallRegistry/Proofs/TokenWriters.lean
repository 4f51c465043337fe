import CallRegistry.Proofs.TokenReplacement

/-!
# Writers of one token file

`Writers` are any number of replacements of one token file, each by a body of its own,
over one tree.  One of them goes on at a time, and they all use the same draft.

As long as none of them begins while another one is at work on the draft, readers see
the token as it was or one of the bodies in full.  The invariant is that one writer at
most is at work, and that the tree stands as the replacement of this writer leaves it.
-/

namespace CallRegistry.Token

open File (Path Tree FileId)
open File.Tree (SameBut)

namespace Replacement.Stage

/-- Whether the draft is open for a replacement, or filled and not yet moved. -/
def isDrafting : Stage → Bool
  | opened _ | buffered .. | written _ | durable => true
  | planned | installed | failed _ => false

def hasEnded : Stage → Bool
  | installed | failed _ => true
  | planned | opened _ | buffered .. | written _ | durable => false

/-- The file that a replacement has open. -/
def file? : Stage → Option FileId
  | opened file | buffered file _ | written file => some file
  | planned | durable | installed | failed _ => none

theorem cases_of (stage : Stage) :
    stage = planned ∨ (stage.isDrafting = true ∧ stage.hasEnded = false) ∨
      stage.hasEnded = true := by
  cases stage <;> simp [isDrafting, hasEnded]

end Replacement.Stage

namespace Replacement

variable {r : Replacement} {t t' : Tree} {stage stage' : Stage}

/-- What a replacement does when it goes on: nothing to the tree, or it opens the
draft, writes to the file that it has open, or moves the draft. -/
theorem advances_cases (h : r.Advances (t, stage) (t', stage')) :
    (t' = t ∧ (∀ file, stage'.file? = some file → stage.file? = some file) ∧
      (stage'.isDrafting = true → stage.isDrafting = true) ∧
      (stage' = .installed ↔ stage = .installed)) ∨
    (∃ file, t.openEmptied r.draft = .ok (t', file) ∧
      stage = .planned ∧ stage' = .opened file) ∨
    (∃ file offset n, stage.file? = some file ∧ stage'.file? = some file ∧
      stage.isDrafting = true ∧ t' = t.write file offset (r.chunk offset n)) ∨
    (stage.isDrafting = true ∧ t.move r.draft r.goal = .ok t' ∧
      stage' = .installed) := by
  have hidle : ∀ fault : ReplacementFault, stage ≠ .installed →
      (∀ file, (Stage.failed fault).file? = some file →
        stage.file? = some file) ∧
      ((Stage.failed fault).isDrafting = true →
        stage.isDrafting = true) ∧
      (Stage.failed fault = .installed ↔ stage = .installed) := by
    intro fault hstage
    refine ⟨?_, ?_, iff_of_false (by simp) hstage⟩
    · intro file hfile
      contradiction
    · intro hdrafting
      contradiction
  generalize hnow : (t, stage) = now at h
  generalize hnext : (t', stage') = next at h
  cases h with
  | step t₁ stage₁ =>
      cases hnow
      cases stage with
      | planned =>
          simp only [step, openDraft] at hnext
          split at hnext
          · cases hnext
            exact Or.inl ⟨rfl, hidle _ (by simp)⟩
          · split at hnext
            · next t₂ file hopen =>
                cases hnext
                exact Or.inr (Or.inl ⟨file, hopen, rfl, rfl⟩)
            · cases hnext
              exact Or.inl ⟨rfl, hidle _ (by simp)⟩
      | opened file =>
          cases hnext
          exact Or.inl ⟨rfl, fun _ hfile => hfile, fun _ => rfl, by simp⟩
      | buffered file offset =>
          cases hnext
          exact Or.inr (Or.inr (Or.inl ⟨file, offset, _, rfl, rfl, rfl, rfl⟩))
      | written file =>
          cases hnext
          refine Or.inl ⟨rfl, ?_, fun _ => rfl, by simp⟩
          intro file hfile
          contradiction
      | durable =>
          simp only [step, install] at hnext
          split at hnext
          · next t₂ hmove =>
              cases hnext
              exact Or.inr (Or.inr (Or.inr ⟨rfl, hmove, rfl⟩))
          · cases hnext
            exact Or.inl ⟨rfl, hidle _ (by simp)⟩
      | installed =>
          cases hnext
          exact Or.inl ⟨rfl, fun _ hfile => hfile,
            fun hdrafting => hdrafting, Iff.rfl⟩
      | failed fault =>
          cases hnext
          exact Or.inl ⟨rfl, hidle _ (by simp)⟩
  | part t₁ file offset n =>
      cases hnow
      cases hnext
      exact Or.inr (Or.inr (Or.inl ⟨file, offset, n, rfl, rfl, rfl, rfl⟩))
  | fail t₁ stage₁ fault hstage =>
      cases hnow
      cases hnext
      exact Or.inl ⟨rfl, hidle fault hstage⟩

/-- A writer that has ended leaves the tree alone. -/
theorem advances_of_ended (hended : stage.hasEnded = true)
    (h : r.Advances (t, stage) (t', stage')) :
    t' = t ∧ stage'.isDrafting = false ∧
      (stage' = .installed ↔ stage = .installed) := by
  have hidle : stage.isDrafting = false := by
    cases stage with
    | installed | failed => rfl
    | _ => contradiction
  rcases advances_cases h with ⟨htree, -, hdrafting, hinstalled⟩ |
    ⟨file, -, rfl, -⟩ | ⟨file, offset, n, -, -, hdrafting, -⟩ | ⟨hdrafting, -⟩
  · refine ⟨htree, ?_, hinstalled⟩
    by_contra hstage
    rw [Bool.not_eq_false] at hstage
    rw [hdrafting hstage] at hidle
    contradiction
  · contradiction
  · rw [hdrafting] at hidle
    contradiction
  · rw [hdrafting] at hidle
    contradiction

end Replacement

/-- Replacements of one token file, each by a body of its own. -/
structure Writers (ι : Type) where
  goal : Path
  draft : Path
  body : ι → List UInt8
  named : draft? goal = some draft

namespace Writers

variable {ι : Type}

def replacement (w : Writers ι) (i : ι) : Replacement :=
  ⟨w.goal, w.draft, w.body i⟩

/-- A tree, and how far each writer has come. -/
abbrev Scene (ι : Type) := Tree × (ι → Replacement.Stage)

/-- The tree before any of the writers has begun. -/
def outset (ι : Type) (t : Tree) : Scene ι :=
  (t, fun _ => .planned)

/-- What readers may see: the token as it was, until a body is in place. -/
def Shows (w : Writers ι) (t : Tree) (now : Scene ι) : Prop :=
  ((∀ i, now.2 i ≠ .installed) ∧ now.1.look? w.goal = t.look? w.goal) ∨
    ∃ i, now.2 i = .installed ∧ now.1.look? w.goal = some (some (w.body i))

/-- What holds while the writers keep apart: one of them at most is at work, and
what the draft holds is its own. -/
structure Apart (w : Writers ι) (t : Tree) (now : Scene ι) : Prop where
  same : SameBut [w.goal, w.draft] t now.1
  shows : w.Shows t now
  alone : ∀ i j, (now.2 i).isDrafting = true → (now.2 j).isDrafting = true →
    j = i
  stands : ∀ i, (now.2 i).isDrafting = true → ∃ before,
    SameBut [w.goal, w.draft] t before ∧
      (w.replacement i).Stands before now.1 (now.2 i)

theorem apart_outset (w : Writers ι) (t : Tree) : w.Apart t (outset ι t) where
  same := .refl _ t
  shows := Or.inl ⟨by simp [outset], rfl⟩
  alone := by simp [outset, Replacement.Stage.isDrafting]
  stands := by simp [outset, Replacement.Stage.isDrafting]

/-! ## Taking turns -/

variable [DecidableEq ι] {w : Writers ι} {t : Tree} {now next : Scene ι}
  {i j : ι} {stage : Replacement.Stage}

/-- One of the writers goes on. -/
def Moves (w : Writers ι) (i : ι) (now next : Scene ι) : Prop :=
  ∃ stage, (w.replacement i).Advances (now.1, now.2 i) (next.1, stage) ∧
    next.2 = Function.update now.2 i stage

/-- The writers go on for a while, in any order. -/
def Run (w : Writers ι) : Scene ι → Scene ι → Prop :=
  Relation.ReflTransGen fun now next => ∃ i, w.Moves i now next

/-- The writers go on for a while, and none of them begins while another one is at
work on the draft. -/
def OrderlyRun (w : Writers ι) : Scene ι → Scene ι → Prop :=
  Relation.ReflTransGen fun now next => ∃ i, w.Moves i now next ∧
    (now.2 i = .planned → ∀ j, (now.2 j).isDrafting = false)

/-- Writers take their steps in a given order. -/
def schedule (w : Writers ι) : List ι → Scene ι → Scene ι
  | [], now => now
  | i :: rest, now =>
    let next := (w.replacement i).step now.1 (now.2 i)
    w.schedule rest (next.1, Function.update now.2 i next.2)

theorem run_schedule (w : Writers ι) (turns : List ι) (now : Scene ι) :
    w.Run now (w.schedule turns now) := by
  induction turns generalizing now with
  | nil => exact .refl
  | cons i turns ih => exact .head ⟨i, _, .step _ _, rfl⟩ (ih _)

/-! ## Writers that keep apart -/

theorem Apart.of_ended (happart : w.Apart t now)
    (hended : (now.2 i).hasEnded = true) (hmoves : w.Moves i now next) :
    w.Apart t next := by
  obtain ⟨stage, hadvances, hstages⟩ := hmoves
  obtain ⟨htree, hdrafting, hinstalled⟩ :=
    Replacement.advances_of_ended hended hadvances
  have hothers : ∀ j, (next.2 j).isDrafting = true → next.2 j = now.2 j := by
    intro j hj
    rw [hstages] at hj ⊢
    by_cases hji : j = i
    · subst j
      rw [Function.update_self, hdrafting] at hj
      contradiction
    · exact Function.update_of_ne hji _ _
  have hsame : ∀ j, next.2 j = .installed ↔ now.2 j = .installed := by
    intro j
    rw [hstages]
    by_cases hji : j = i
    · subst j
      rw [Function.update_self, hinstalled]
    · rw [Function.update_of_ne hji]
  refine ⟨htree ▸ happart.same, ?_, ?_, ?_⟩
  · simpa only [Shows, Ne, hsame, htree] using happart.shows
  · intro j k hj hk
    exact happart.alone j k (hothers j hj ▸ hj) (hothers k hk ▸ hk)
  · intro j hj
    rw [hothers j hj, htree]
    exact happart.stands j (hothers j hj ▸ hj)

/-- The writer that goes on is the only one at work, if any is. -/
theorem Apart.of_turn {before : Tree} (happart : w.Apart t now)
    (hended : (now.2 i).hasEnded = false)
    (halone : ∀ j, (now.2 j).isDrafting = true → j = i)
    (hsame : SameBut [w.goal, w.draft] t before)
    (hstands : (w.replacement i).Stands before now.1 (now.2 i))
    (hmoves : w.Moves i now next) : w.Apart t next := by
  obtain ⟨stage, hadvances, hstages⟩ := hmoves
  have hnamed : draft? (w.replacement i).goal = some (w.replacement i).draft :=
    w.named
  have hnext : (w.replacement i).Stands before next.1 stage :=
    hstands.advance hnamed hadvances
  have hself : next.2 i = stage := by rw [hstages, Function.update_self]
  have hothers : ∀ j, j ≠ i → next.2 j = now.2 j := by
    intro j hji
    rw [hstages, Function.update_of_ne hji]
  have halone' : ∀ j, (next.2 j).isDrafting = true → j = i := by
    intro j hj
    by_contra hji
    exact hji (halone j (hothers j hji ▸ hj))
  have hactive : now.2 i ≠ .installed := by
    intro hinstalled
    rw [hinstalled] at hended
    contradiction
  refine ⟨?_, ?_, ?_, ?_⟩
  · by_cases hinstalled : stage = .installed
    · subst hinstalled
      exact hsame.trans hnext.same
    · have hdraft := hnext.sameBut_draft hinstalled
      exact hsame.trans (hdraft.mono (by simp [replacement]))
  · by_cases hinstalled : stage = .installed
    · subst hinstalled
      exact Or.inr ⟨i, hself, hnext.goal_eq⟩
    · -- Neither this step nor the ones before it since `before` touch the token.
      have hlook : next.1.look? w.goal = now.1.look? w.goal :=
        (look?_goal hnamed (hnext.sameBut_draft hinstalled)).trans
          (look?_goal hnamed (hstands.sameBut_draft hactive)).symm
      rw [Shows, hlook]
      rcases happart.shows with ⟨hnone, htoken⟩ | ⟨k, hk, htoken⟩
      · left
        refine ⟨?_, htoken⟩
        intro j
        by_cases hji : j = i
        · subst j
          rwa [hself]
        · rw [hothers j hji]
          exact hnone j
      · right
        have hki : k ≠ i := by
          rintro rfl
          exact hactive hk
        exact ⟨k, (hothers k hki).trans hk, htoken⟩
  · intro j k hj hk
    rw [halone' j hj, halone' k hk]
  · intro j hj
    obtain rfl := halone' j hj
    rw [hself]
    exact ⟨before, hsame, hnext⟩

theorem Apart.move (happart : w.Apart t now) (hmoves : w.Moves i now next)
    (horderly : now.2 i = .planned → ∀ j, (now.2 j).isDrafting = false) :
    w.Apart t next := by
  rcases (now.2 i).cases_of with
    hplanned | ⟨hdrafting, hended⟩ | hended
  · have halone : ∀ j, (now.2 j).isDrafting = true → j = i := by
      intro j hj
      rw [horderly hplanned j] at hj
      contradiction
    have hstands : (w.replacement i).Stands now.1 now.1 (now.2 i) := by
      rw [hplanned]
      rfl
    exact happart.of_turn (by rw [hplanned]; rfl) halone happart.same hstands
      hmoves
  · obtain ⟨before, hsame, hstands⟩ := happart.stands i hdrafting
    exact happart.of_turn hended (fun j hj => happart.alone i j hdrafting hj)
      hsame hstands hmoves
  · exact happart.of_ended hended hmoves

theorem apart_of_orderlyRun (hrun : w.OrderlyRun (outset ι t) now) :
    w.Apart t now := by
  induction hrun with
  | refl => exact w.apart_outset t
  | tail _ hstep ih =>
      obtain ⟨i, hmoves, horderly⟩ := hstep
      exact ih.move hmoves horderly

/-- A writer keeps apart when no other one is at work. -/
theorem orderlyRun_alone (n : ℕ)
    (halone : ∀ j, (now.2 j).isDrafting = true → j = i) :
    w.OrderlyRun now (w.schedule (List.replicate n i) now) := by
  induction n generalizing now with
  | zero => exact .refl
  | succ n ih =>
      refine .head ⟨i, ⟨_, .step _ _, rfl⟩, ?_⟩ (ih ?_)
      · intro hplanned j
        by_contra hj
        rw [Bool.not_eq_false] at hj
        obtain rfl := halone j hj
        rw [hplanned] at hj
        contradiction
      · intro j hj
        by_contra hji
        dsimp only at hj
        rw [Function.update_of_ne hji] at hj
        exact hji (halone j hj)

end Writers

end CallRegistry.Token
