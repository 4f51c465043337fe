import CallRegistry.Proofs.TokenWriters

/-!
# Replacements that share a draft

Nothing keeps the writers of a token file apart, and any two of them can come to each
other's draft: one that opens the draft of the other empties it, and what the other
then moves into place is an empty token, the beginning of one, or one that both have
written to.

Whatever their order, readers see no bytes but those of the token as it was or of the
bodies, each at its own place, and zeros where a writer goes on behind the end of what
another one has left.
-/

namespace CallRegistry.Token

open File (Path Place Tree FileId)
open File.Tree (SameBut)

/-- A replacement that can be carried out opens the draft, fills it and moves it. -/
theorem Replacement.exists_installed {r : Replacement} {t : Tree}
    (hdraft : draft? r.goal = some r.draft) (h : r.Replaceable t) :
    ∃ t₁ file t₂, r.openDraft t = (t₁, .opened file) ∧
      SameBut [r.draft] t (t₁.write file 0 r.body) ∧
      r.install (t₁.write file 0 r.body) = (t₂, .installed) ∧
      t₂.look? r.goal = some (some r.body) := by
  obtain ⟨t₁, file, hopen⟩ := openDraft_of_replaceable h
  have hemptied := stands_openDraft r t
  rw [hopen] at hemptied
  have hfilled : r.Drafted t (t₁.write file 0 r.body) file r.body := by
    have hwritten := Drafted.write hemptied 0 r.body
    rwa [show File.Tree.overlaid [] 0 r.body = r.body from
      File.Tree.overlaid_length [] r.body] at hwritten
  obtain ⟨t₂, hinstall⟩ := hfilled.install_of_replaceable h
  have hinstalled := hfilled.stands_install hdraft
  rw [hinstall] at hinstalled
  exact ⟨t₁, file, t₂, hopen, hfilled.same, hinstall, hinstalled.goal_eq⟩

namespace Writers

variable {ι : Type} {w : Writers ι} {t : Tree} {i j : ι}

/-! ## Writers in any order -/

/-- Every byte is one that a body has at the same place, or a zero at a place that a
body reaches. -/
def Mixed (w : Writers ι) (bytes : List UInt8) : Prop :=
  ∀ (k : ℕ) (b : UInt8), bytes[k]? = some b →
    ∃ i, (w.body i)[k]? = some b ∨ b = 0 ∧ k < (w.body i).length

theorem Mixed.write {old : List UInt8} (hold : w.Mixed old) (i : ι)
    (offset n : ℕ) :
    w.Mixed (File.Tree.overlaid old offset ((w.replacement i).chunk offset n)) := by
  intro k b hk
  rcases File.Tree.getElem?_overlaid hk with hk | ⟨hchunk, hbefore, rfl⟩ | ⟨hle, hk⟩
  · exact hold k b hk
  · have hlength := (w.replacement i).length_chunk_le offset n
    have hpos := List.length_pos_iff.mpr hchunk
    have hbody : (w.replacement i).body = w.body i := rfl
    rw [hbody] at hlength
    exact ⟨i, .inr ⟨rfl, by omega⟩⟩
  · refine ⟨i, .inl ?_⟩
    simp only [Replacement.chunk, List.getElem?_take, List.getElem?_drop,
      Option.ite_none_right_eq_some, Nat.add_sub_cancel' hle] at hk
    exact hk.2

theorem place_ne {here there : Place}
    (hhere : t.target w.draft = .ok (.place here))
    (hthere : t.target w.goal = .ok (.place there)) : there ≠ here := by
  rintro rfl
  exact draft_apart w.named hhere hthere

/-- The files that the writers have opened hold bytes of the bodies, and stand at the
draft or at the token, if anywhere. -/
structure Blended (w : Writers ι) (t t' : Tree) (ours : Set FileId) : Prop where
  same : SameBut [w.goal, w.draft] t t'
  bytes : ∀ file ∈ ours, w.Mixed (t'.bytes file)
  places : ∀ file ∈ ours, ∀ place, t'.node? place = some (.file file) →
    t.target w.draft = .ok (.place place) ∨ t.target w.goal = .ok (.place place)
  token : (t'.look? w.goal = t.look? w.goal ∧
      ∀ place file, t.target w.goal = .ok (.place place) →
        t'.node? place = some (.file file) → file ∉ ours) ∨
    ∃ place, ∃ file ∈ ours, t.target w.goal = .ok (.place place) ∧
      t'.node? place = some (.file file)

variable {ours : Set FileId} {before after : Tree} {file : FileId}

theorem Blended.write (h : w.Blended t before ours) (hfile : file ∈ ours) (i : ι)
    (offset n : ℕ) :
    w.Blended t (before.write file offset ((w.replacement i).chunk offset n))
      ours := by
  set after := before.write file offset ((w.replacement i).chunk offset n)
    with hafter
  have hseen : ∀ place, before.node? place ≠ some (.file file) →
      after.seen? place = before.seen? place :=
    fun place hplace => File.Tree.seen?_write_of_ne hplace offset _
  have hsame : SameBut [w.goal, w.draft] before after := by
    refine .of_seen rfl ?_
    intro place
    by_cases hplace : before.node? place = some (.file file)
    · right
      have hplace' : after.node? place = some (.file file) := hplace
      refine ⟨?_, ?_, ?_⟩
      · simp [File.Tree.seen?_of_file hplace]
      · simp [File.Tree.seen?_of_file hplace']
      · rcases h.places file hfile place hplace with hdraft | hgoal
        · exact ⟨w.draft, by simp,
            (h.same.directories.target_iff _ _).mpr hdraft⟩
        · exact ⟨w.goal, by simp,
            (h.same.directories.target_iff _ _).mpr hgoal⟩
    · exact Or.inl (hseen place hplace)
  refine ⟨h.same.trans hsame, ?_, h.places, ?_⟩
  · intro other hother
    by_cases heq : other = file
    · subst other
      have hbytes : after.bytes file = File.Tree.overlaid (before.bytes file)
          offset ((w.replacement i).chunk offset n) := by
        simp [hafter, Tree.write, Tree.setBytes]
      rw [hbytes]
      exact (h.bytes file hfile).write i offset n
    · have hbytes : after.bytes other = before.bytes other := by
        simp [hafter, Tree.write, Tree.setBytes, heq]
      rw [hbytes]
      exact h.bytes other hother
  · rcases h.token with ⟨hlook, hfree⟩ | hours
    · refine Or.inl ⟨?_, hfree⟩
      rw [← hlook]
      apply hsame.directories.look?_eq
      intro place hplace
      apply hseen
      intro hstands
      exact hfree place file ((h.same.directories.target_iff _ _).mp hplace)
        hstands hfile
    · exact Or.inr hours

theorem Blended.open (h : w.Blended t before ours)
    (hopen : before.openEmptied w.draft = .ok (after, file)) :
    w.Blended t after (insert file ours) ∧ ∀ place,
      t.target w.draft = .ok (.place place) →
        after.node? place = some (.file file) := by
  obtain ⟨here, hhere, hnode, hbytes⟩ := File.Tree.node?_openEmptied hopen
  have hdraft := (File.Tree.openEmptied_spec hopen).1
  have htarget : t.target w.draft = .ok (.place here) :=
    (h.same.directories.target_iff _ _).mp hhere
  have hstands : after.node? here = some (.file file) := by
    rw [hnode, Function.update_self]
  have hothers : ∀ place, place ≠ here →
      after.node? place = before.node? place := by
    intro place hplace
    rw [hnode, Function.update_of_ne hplace]
  refine ⟨⟨h.same.trans (hdraft.mono (by simp)), ?_, ?_, ?_⟩, ?_⟩
  · intro other hother
    rw [hbytes]
    by_cases heq : other = file
    · subst other
      rw [Function.update_self]
      intro k b hk
      simp at hk
    · rw [Function.update_of_ne heq]
      exact h.bytes other (hother.resolve_left heq)
  · intro other hother place hplace
    by_cases heq : place = here
    · subst place
      exact Or.inl htarget
    · rcases hother with rfl | hother
      · exact absurd (File.Tree.eq_of_node? hplace hstands) heq
      · rw [hothers place heq] at hplace
        exact h.places other hother place hplace
  · rcases h.token with ⟨hlook, hfree⟩ | ⟨there, other, hother, hthere, hgoal⟩
    · refine Or.inl ⟨(look?_goal w.named hdraft).trans hlook, ?_⟩
      intro there other hthere hgoal
      have hne := place_ne htarget hthere
      rintro (rfl | hother)
      · exact hne (File.Tree.eq_of_node? hgoal hstands)
      · rw [hothers there hne] at hgoal
        exact hfree there other hthere hgoal hother
    · have hne := place_ne htarget hthere
      exact Or.inr ⟨there, other, Or.inr hother, hthere,
        (hothers there hne).trans hgoal⟩
  · intro place hplace
    rw [htarget] at hplace
    cases hplace
    exact hstands

theorem Blended.move (h : w.Blended t before ours)
    (hmove : before.move w.draft w.goal = .ok after)
    (hours : ∀ place file, t.target w.draft = .ok (.place place) →
      before.node? place = some (.file file) → file ∈ ours) :
    w.Blended t after ours ∧ ∀ place,
      t.target w.draft = .ok (.place place) → after.node? place = none := by
  obtain ⟨here, there, file, hhere, hthere, hstands, hnode, hbytes⟩ :=
    File.Tree.node?_move hmove
  have hmoved := File.Tree.move_spec hmove fun _ => draft_apart w.named
  have hhere' : t.target w.draft = .ok (.place here) :=
    (h.same.directories.target_iff _ _).mp hhere
  have hthere' : t.target w.goal = .ok (.place there) :=
    (h.same.directories.target_iff _ _).mp hthere
  have hne := place_ne hhere' hthere'
  have hgone : after.node? here = none := by
    rw [hnode, Function.update_of_ne hne.symm, Function.update_self]
  refine ⟨⟨h.same.trans hmoved.1, ?_, ?_, ?_⟩, ?_⟩
  · rw [hbytes]
    exact h.bytes
  · intro other hother place hplace
    by_cases heq : place = there
    · subst place
      exact Or.inr hthere'
    · have hplace' : place ≠ here := by
        rintro rfl
        rw [hgone] at hplace
        cases hplace
      rw [hnode, Function.update_of_ne heq, Function.update_of_ne hplace']
        at hplace
      exact h.places other hother place hplace
  · refine Or.inr ⟨there, file, hours here file hhere' hstands, hthere', ?_⟩
    rw [hnode, Function.update_self]
  · intro place hplace
    rw [hhere'] at hplace
    cases hplace
    exact hgone

/-- The token is as it was, or its bytes are those of the bodies. -/
theorem Blended.look?_goal (h : w.Blended t after ours) :
    after.look? w.goal = t.look? w.goal ∨
      ∃ bytes, after.look? w.goal = some (some bytes) ∧ w.Mixed bytes := by
  rcases h.token with ⟨hlook, -⟩ | ⟨place, file, hfile, htarget, hstands⟩
  · exact Or.inl hlook
  · right
    have htarget' := (h.same.directories.target_iff _ _).mpr htarget
    refine ⟨after.bytes file, ?_, h.bytes file hfile⟩
    rw [File.Tree.look?_of_target htarget', File.Tree.seen?_of_file hstands]

/-- The file that a writer has open is one of them, and so is the draft while it is at
work. -/
structure Keeps (w : Writers ι) (t t' : Tree) (ours : Set FileId)
    (stage : Replacement.Stage) : Prop where
  file : ∀ file, stage.file? = some file → file ∈ ours
  draft : stage.isDrafting = true → ∀ place file,
    t.target w.draft = .ok (.place place) →
    t'.node? place = some (.file file) → file ∈ ours

variable [DecidableEq ι] {now next : Scene ι}

/-- However a writer goes on, the files that were opened stay blended, and one more
may be among them. -/
theorem Blended.advance (h : w.Blended t now.1 ours)
    (hkeeps : ∀ j, w.Keeps t now.1 ours (now.2 j))
    (hmoves : w.Moves i now next) :
    ∃ more, w.Blended t next.1 more ∧
      ∀ j, w.Keeps t next.1 more (next.2 j) := by
  obtain ⟨stage, hadvances, hstages⟩ := hmoves
  rw [hstages]
  have hall : ∀ {more : Set FileId}, w.Keeps t next.1 more stage →
      (∀ j, w.Keeps t next.1 more (now.2 j)) →
      ∀ j, w.Keeps t next.1 more (Function.update now.2 i stage j) := by
    intro more hself hothers
    rw [Function.forall_update_iff now.2
      fun _ stage => w.Keeps t next.1 more stage]
    exact ⟨hself, fun j _ => hothers j⟩
  rcases Replacement.advances_cases hadvances with
    ⟨htree, hfile, hdrafting, -⟩ | ⟨file, hopen, -, rfl⟩ |
    ⟨file, offset, n, hfile, hfile', hdrafting, htree⟩ |
    ⟨hdrafting, hmove, rfl⟩
  · rw [htree] at hall ⊢
    refine ⟨ours, h, hall ?_ hkeeps⟩
    exact ⟨fun file hstage => (hkeeps i).file file (hfile file hstage),
      fun hstage => (hkeeps i).draft (hdrafting hstage)⟩
  · obtain ⟨hopened, hstands⟩ := h.open hopen
    have hdraft : ∀ place other, t.target w.draft = .ok (.place place) →
        next.1.node? place = some (.file other) →
        other ∈ insert file ours := by
      intro place other hplace hother
      rw [hstands place hplace] at hother
      cases hother
      exact Set.mem_insert file ours
    refine ⟨_, hopened, hall ⟨?_, fun _ => hdraft⟩ ?_⟩
    · intro other hother
      cases hother
      exact Set.mem_insert file ours
    · intro j
      exact ⟨fun other hother => Or.inr ((hkeeps j).file other hother),
        fun _ => hdraft⟩
  · rw [htree] at hall ⊢
    have hours := (hkeeps i).file file hfile
    refine ⟨ours, h.write hours i offset n, hall ?_ ?_⟩
    · refine ⟨?_, fun _ => (hkeeps i).draft hdrafting⟩
      intro other hother
      rw [hfile'] at hother
      cases hother
      exact hours
    · intro j
      exact ⟨(hkeeps j).file, (hkeeps j).draft⟩
  · obtain ⟨hmoved, hgone⟩ := h.move hmove ((hkeeps i).draft hdrafting)
    -- The draft is gone, so nothing is left to be said of it.
    have hdraft : ∀ place file, t.target w.draft = .ok (.place place) →
        next.1.node? place = some (.file file) → file ∈ ours := by
      intro place file hplace hstands
      rw [hgone place hplace] at hstands
      contradiction
    refine ⟨ours, hmoved, hall ⟨?_, fun _ => hdraft⟩ ?_⟩
    · intro other hother
      contradiction
    · intro j
      exact ⟨(hkeeps j).file, fun _ => hdraft⟩

theorem exists_blended_of_run (hrun : w.Run (outset ι t) now) :
    ∃ ours, w.Blended t now.1 ours ∧ ∀ i, w.Keeps t now.1 ours (now.2 i) := by
  induction hrun with
  | refl =>
      refine ⟨∅, ⟨.refl _ t, by simp, by simp, Or.inl ⟨rfl, by simp⟩⟩, ?_⟩
      intro i
      constructor
      · intro file hfile
        contradiction
      · intro hdrafting
        contradiction
  | tail _ hstep ih =>
      obtain ⟨ours, hblended, hkeeps⟩ := ih
      obtain ⟨i, hmoves⟩ := hstep
      exact hblended.advance hkeeps hmoves

/-! ## Writers that overlap -/

/-- One writer fills the draft, another one opens it and writes some of its bytes,
and the first one moves it into place: readers see no more than these bytes. -/
theorem exists_run_torn (hij : i ≠ j) (h : (w.replacement i).Replaceable t)
    (n : ℕ) :
    ∃ now, w.Run (outset ι t) now ∧ now.2 i = .installed ∧
      now.1.look? w.goal = some (some ((w.body j).take n)) := by
  -- Opening and moving do not depend on the body, so what the first writer moves is
  -- the draft of a replacement by these bytes alone.
  let r : Replacement := ⟨w.goal, w.draft, (w.body j).take n⟩
  obtain ⟨t₁, file, -, hopen, hfilled, -, -⟩ :=
    Replacement.exists_installed w.named h
  let filled := t₁.write file 0 (w.replacement i).body
  have hr : r.Replaceable filled :=
    (Replacement.replaceable_iff hfilled.directories).mpr
      ⟨h.plain, h.draft, h.goal⟩
  obtain ⟨t₂, file', t₃, hreopen, -, hinstall, hlook⟩ :=
    Replacement.exists_installed w.named hr
  let torn := t₂.write file' 0 r.body
  let s := w.schedule [i, i, i, i, j, j] (outset ι t)
  have hs : s.1 = t₂ ∧ s.2 i = .durable ∧ s.2 j = .buffered file' 0 := by
    have hreopen' : (w.replacement j).openDraft
        (t₁.write file 0 (w.replacement i).body) = (t₂, .opened file') := hreopen
    simp [s, schedule, outset, Replacement.step, Replacement.chunk_all, hopen,
      hreopen', hij, hij.symm]
  let stages := Function.update s.2 j (.buffered file' (0 + r.body.length))
  have hpart : w.Moves j s (torn, stages) := by
    refine ⟨_, ?_, rfl⟩
    rw [hs.1, hs.2.2]
    exact .part t₂ file' 0 n
  have hmove : w.Moves i (torn, stages)
      (t₃, Function.update stages i .installed) := by
    refine ⟨.installed, ?_, rfl⟩
    have hstep : (w.replacement i).Advances (torn, .durable)
        ((w.replacement i).install torn) := .step torn .durable
    have hinstall' : (w.replacement i).install torn = (t₃, .installed) :=
      hinstall
    have hstage : stages i = .durable := by
      rw [← hs.2.1]
      exact Function.update_of_ne hij _ _
    rw [hinstall', ← hstage] at hstep
    exact hstep
  refine ⟨_, ((w.run_schedule _ _).tail ⟨j, hpart⟩).tail ⟨i, hmove⟩, ?_, ?_⟩
  · exact Function.update_self ..
  · exact hlook

end Writers

/-- In whatever order the writers go on, the token file is seen as it was or with bytes
of the bodies, each at its own place, and zeros where one writer goes on behind the end
of what another one has left.  While they keep apart it is seen as it was until a body
is in place, and then with one of the bodies in full.  Any two of them can overlap, and
then it is seen with any beginning of a body.  The tree holds no links. -/
theorem shared_draft_tokens {ι : Type} [DecidableEq ι] (w : Writers ι)
    (t : Tree) :
    (∀ i, Replacement.plan w.goal (w.body i) = .ok (w.replacement i)) ∧
    (∀ now, w.Run (Writers.outset ι t) now →
      SameBut [w.goal, w.draft] t now.1 ∧
      (now.1.look? w.goal = t.look? w.goal ∨
        ∃ bytes, now.1.look? w.goal = some (some bytes) ∧
          ∀ (k : ℕ) (b : UInt8), bytes[k]? = some b →
            ∃ i, (w.body i)[k]? = some b ∨ b = 0 ∧ k < (w.body i).length)) ∧
    (∀ now, w.OrderlyRun (Writers.outset ι t) now →
      ((∀ i, now.2 i ≠ .installed) ∧ now.1.look? w.goal = t.look? w.goal) ∨
        ∃ i, now.2 i = .installed ∧
          now.1.look? w.goal = some (some (w.body i))) ∧
    ∀ i j, i ≠ j → (w.replacement i).Replaceable t → ∀ n,
      ∃ now, w.Run (Writers.outset ι t) now ∧ now.2 i = .installed ∧
        now.1.look? w.goal = some (some ((w.body j).take n)) := by
  refine ⟨fun i => Replacement.plan_of_draft w.named (w.body i), ?_, ?_,
    fun i j hij h n => Writers.exists_run_torn hij h n⟩
  · intro now hrun
    obtain ⟨ours, hblended, -⟩ := Writers.exists_blended_of_run hrun
    exact ⟨hblended.same, hblended.look?_goal⟩
  · intro now hrun
    exact (Writers.apart_of_orderlyRun hrun).shows

/-- Two writers over an old token. -/
def twoWriters : Writers Bool where
  goal := Path.ofText "/run/token"
  draft := Path.ofText "/run/token.bak"
  body second := if second then [4, 5] else [1, 2, 3]
  named := by decide

def oldToken : Tree :=
  (Tree.empty []).addFile ["run", "token"] [7]

/-- When one of two writers follows the other, a body is seen in full in the end;
when they overlap, a part of one may be seen. -/
theorem tokens_of_two_writers :
    (∃ now, twoWriters.OrderlyRun (Writers.outset Bool oldToken) now ∧
      ∃ i, now.2 i = .installed ∧
        now.1.look? twoWriters.goal = some (some (twoWriters.body i))) ∧
    ∃ now, twoWriters.Run (Writers.outset Bool oldToken) now ∧
      now.1.look? twoWriters.goal = some (some [4]) := by
  obtain ⟨-, -, horderly, htorn⟩ := shared_draft_tokens twoWriters oldToken
  constructor
  · let first := twoWriters.schedule (List.replicate 5 false)
      (Writers.outset Bool oldToken)
    let second := twoWriters.schedule (List.replicate 5 true) first
    have hfirst : twoWriters.OrderlyRun (Writers.outset Bool oldToken) first :=
      Writers.orderlyRun_alone 5 (by decide)
    have hsecond : twoWriters.OrderlyRun first second :=
      Writers.orderlyRun_alone 5 (by decide +kernel)
    have hrun := hfirst.trans hsecond
    have hend : second.2 true = .installed := by decide +kernel
    rcases horderly second hrun with ⟨hnone, -⟩ | hinstalled
    · exact absurd hend (hnone true)
    · exact ⟨second, hrun, hinstalled⟩
  · have hreplaceable : (twoWriters.replacement false).Replaceable oldToken :=
      ⟨by decide +kernel, ⟨["run", "token.bak"], by decide +kernel,
        by decide +kernel⟩, ⟨["run", "token"], by decide +kernel,
        by decide +kernel⟩⟩
    obtain ⟨now, hrun, -, hlook⟩ := htorn false true (by decide) hreplaceable 1
    exact ⟨now, hrun, hlook⟩

/-- Two writers that both fill the draft write to the same file, and what one of
them moves into place is neither the old token nor the body of a writer. -/
theorem overlapping_tokens_mix :
    ∃ now, twoWriters.Run (Writers.outset Bool oldToken) now ∧
      now.1.look? twoWriters.goal = some (some [4, 5, 3]) ∧
      now.1.look? twoWriters.goal ≠ oldToken.look? twoWriters.goal ∧
      ∀ i, now.1.look? twoWriters.goal ≠ some (some (twoWriters.body i)) := by
  refine ⟨_, twoWriters.run_schedule
    [false, true, false, false, true, true, false, false] _, ?_, ?_, ?_⟩
  · decide +kernel
  · decide +kernel
  · decide +kernel

end CallRegistry.Token
