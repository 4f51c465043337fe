import Mathlib.Tactic
import CallRegistry.File.Tree

/-!
# What a tree shows

A tree is seen place by place, as it is listed: nothing, a directory, or the
bytes of a file.  A write changes the bytes of one file and is seen at one place,
since no file stands at two; a new file is seen at its own place; and a file that
is moved is seen at the place where it arrives and no longer where it was.

Where a path leads depends on the directories alone.
-/

namespace CallRegistry.File.Tree

variable {t t' t'' : Tree} {place here there : Place} {id : FileId} {p : Path}

/-- What stands at a place, as it is listed: nothing, a directory, or a file. -/
def seen? (t : Tree) (place : Place) : Option (Option (List UInt8)) :=
  (t.node? place).map (Node.listed t)

/-- What stands where a path leads. -/
def look? (t : Tree) (p : Path) : Option (Option (List UInt8)) :=
  match t.target p with
  | .ok (.place place) => t.seen? place
  | .ok .unnamed => some none
  | .error _ => none

theorem seen?_eq_directory_iff :
    t.seen? place = some none ↔ t.node? place = some .directory := by
  unfold seen?
  cases t.node? place with
  | none => simp
  | some node => cases node <;> simp [Node.listed]

theorem seen?_of_file (h : t.node? place = some (.file id)) :
    t.seen? place = some (some (t.bytes id)) := by
  simp [seen?, h, Node.listed]

theorem lookup_cons_of_ne {first other : Place} (hne : other ≠ first)
    (node : Node) (nodes : List (Place × Node)) :
    ((first, node) :: nodes).lookup other = nodes.lookup other := by
  rw [List.lookup_cons, beq_false_of_ne hne]

theorem lookup_elsewhere_self (place : Place) (nodes : List (Place × Node)) :
    (elsewhere place nodes).lookup place = none := by
  rw [List.lookup_eq_none_iff]
  intro e he
  exact bne_iff_ne.mpr (mem_elsewhere.mp he).2.symm

theorem lookup_elsewhere_of_ne {other : Place} (hne : other ≠ place)
    (nodes : List (Place × Node)) :
    (elsewhere place nodes).lookup other = nodes.lookup other := by
  induction nodes with
  | nil => rfl
  | cons e nodes ih =>
      obtain ⟨first, node⟩ := e
      unfold elsewhere at ih ⊢
      by_cases hfirst : first = place
      · subst first
        rw [List.filter_cons_of_neg (by simp), lookup_cons_of_ne hne, ih]
      · rw [List.filter_cons_of_pos (by simpa using hfirst)]
        by_cases hother : other = first
        · simp [hother]
        · rw [lookup_cons_of_ne hother, lookup_cons_of_ne hother, ih]

theorem node?_putFile (hplace : place ≠ []) :
    (t.putFile place).node? =
      Function.update t.node? place (some (.file t.fresh)) := by
  funext other
  by_cases hother : other = place
  · subst other
    simp [node?, hplace, putFile]
  · rw [Function.update_of_ne hother]
    simp only [node?, putFile, lookup_cons_of_ne hother,
      lookup_elsewhere_of_ne hother]

theorem node?_relocate (hhere : here ≠ []) (hthere : there ≠ [])
    (h : (here, .file id) ∈ t.nodes) :
    (t.relocate here there id h).node? =
      Function.update (Function.update t.node? here none) there
        (some (.file id)) := by
  funext other
  by_cases hother : other = there
  · subst other
    simp [node?, hthere, relocate]
  · rw [Function.update_of_ne hother]
    simp only [node?, relocate, lookup_cons_of_ne hother,
      lookup_elsewhere_of_ne hother]
    by_cases hsource : other = here
    · subst other
      rw [Function.update_self, lookup_elsewhere_self, if_neg hhere]
    · rw [Function.update_of_ne hsource, lookup_elsewhere_of_ne hsource]
      rfl

theorem lt_fresh_of_node? (h : t.node? place = some (.file id)) :
    id < t.fresh :=
  t.numbered place id (mem_nodes_of_node? h)

theorem eq_of_node? (hhere : t.node? here = some (.file id))
    (hthere : t.node? there = some (.file id)) : here = there :=
  t.single here there id (mem_nodes_of_node? hhere) (mem_nodes_of_node? hthere)

theorem seen?_setBytes (hhere : t.node? here = some (.file id))
    (body : List UInt8) :
    (t.setBytes id body).seen? =
      Function.update t.seen? here (some (some body)) := by
  funext other
  have hnode : (t.setBytes id body).node? other = t.node? other := rfl
  by_cases hother : other = here
  · subst other
    rw [seen?_of_file (hnode.trans hhere)]
    simp [setBytes]
  · rw [Function.update_of_ne hother]
    unfold seen?
    rw [hnode]
    cases hseen : t.node? other with
    | none => rfl
    | some node =>
        cases node with
        | directory => rfl
        | file other =>
            -- The same file elsewhere would stand at two places.
            have hid : other ≠ id := by
              rintro rfl
              exact hother (eq_of_node? hseen hhere)
            simp [Node.listed, setBytes, hid]

theorem seen?_putFile (hplace : place ≠ []) :
    (t.putFile place).seen? =
      Function.update t.seen? place (some (some [])) := by
  funext other
  have hnode := congrFun (node?_putFile (t := t) hplace) other
  by_cases hother : other = place
  · subst other
    rw [Function.update_self] at hnode
    rw [seen?_of_file hnode]
    simp [putFile]
  · rw [Function.update_of_ne hother] at hnode ⊢
    unfold seen?
    rw [hnode]
    cases hseen : t.node? other with
    | none => rfl
    | some node =>
        cases node with
        | directory => rfl
        | file id =>
            have hid : id ≠ t.fresh := (lt_fresh_of_node? hseen).ne
            simp [Node.listed, putFile, hid]

theorem seen?_relocate (hhere : here ≠ []) (hthere : there ≠ [])
    (h : (here, .file id) ∈ t.nodes) :
    (t.relocate here there id h).seen? =
      Function.update (Function.update t.seen? here none) there
        (some (some (t.bytes id))) := by
  funext other
  have hnode := congrFun (node?_relocate hhere hthere h) other
  unfold seen?
  rw [hnode]
  by_cases hother : other = there
  · subst other
    simp [Node.listed, relocate]
  · rw [Function.update_of_ne hother, Function.update_of_ne hother]
    by_cases hsource : other = here
    · subst other
      simp
    · rw [Function.update_of_ne hsource, Function.update_of_ne hsource]
      rfl

/-! ## Trees with the same directories -/

/-- The same directories, and relative paths begin in the same one. -/
structure SameDirectories (t t' : Tree) : Prop where
  home : t'.home = t.home
  seen_iff : ∀ place, t'.seen? place = some none ↔ t.seen? place = some none

namespace SameDirectories

theorem refl (t : Tree) : SameDirectories t t :=
  ⟨rfl, fun _ => Iff.rfl⟩

theorem trans (h : SameDirectories t t') (h' : SameDirectories t' t'') :
    SameDirectories t t'' :=
  ⟨h'.home.trans h.home, fun place =>
    (h'.seen_iff place).trans (h.seen_iff place)⟩

theorem node_iff (h : SameDirectories t t') (place : Place) :
    t'.node? place = some .directory ↔ t.node? place = some .directory := by
  rw [← seen?_eq_directory_iff, ← seen?_eq_directory_iff, h.seen_iff]

end SameDirectories

theorem enter_eq_ok_iff {name : String} {next : Place} :
    t.enter place name = .ok next ↔
      (name = ".." ∧ next = place.dropLast) ∨
      (name ≠ ".." ∧ name.utf8ByteSize ≤ maxNameBytes ∧
        t.node? (place ++ [name]) = some .directory ∧
        next = place ++ [name]) := by
  unfold enter
  by_cases hup : name = ".."
  · simp [hup, eq_comm]
  · by_cases hlong : maxNameBytes < name.utf8ByteSize
    · have hnot : ¬ name.utf8ByteSize ≤ maxNameBytes := by omega
      simp [hup, hlong, hnot]
    · have hle : name.utf8ByteSize ≤ maxNameBytes := by omega
      cases hnode : t.node? (place ++ [name]) with
      | none => simp [hup, hlong]
      | some node => cases node <;> simp [hup, hlong, hle, eq_comm]

/-- Names lead to the same directory in trees with the same directories. -/
theorem SameDirectories.walk_iff (h : SameDirectories t t') (names : List String)
    (place goal : Place) :
    t'.walk place names = .ok goal ↔ t.walk place names = .ok goal := by
  induction names generalizing place with
  | nil => rfl
  | cons name names ih =>
      -- A step of the walk only asks whether a place is a directory.
      have henter : ∀ next, t'.enter place name = .ok next ↔
          t.enter place name = .ok next := by
        intro next
        simp only [enter_eq_ok_iff, h.node_iff]
      simp only [walk]
      cases hbefore : t.enter place name with
      | ok next =>
          rw [(henter next).mpr hbefore]
          exact ih next
      | error problem =>
          cases hafter : t'.enter place name with
          | ok next =>
              rw [henter, hbefore] at hafter
              contradiction
          | error problem' => simp

/-- Whether a path leads to a place is a matter of its length, of the way to its
last name, and of that name. -/
theorem target_eq_place_iff :
    t.target p = .ok (.place place) ↔
      fits p = true ∧ ∃ directory name,
        t.walk (t.start p) p.names.dropLast = .ok directory ∧
        p.name? = some name ∧ name ≠ ".." ∧
        name.utf8ByteSize ≤ maxNameBytes ∧ place = directory ++ [name] := by
  unfold target
  cases hfits : fits p with
  | false => simp
  | true =>
      cases hwalk : t.walk (t.start p) p.names.dropLast with
      | error problem => simp
      | ok directory =>
          cases hname : p.name? with
          | none => simp
          | some name =>
              by_cases hup : name = ".."
              · simp [hup]
              · by_cases hlong : maxNameBytes < name.utf8ByteSize
                · have hnot : ¬ name.utf8ByteSize ≤ maxNameBytes := by omega
                  simp [hup, hlong, hnot]
                · have hle : name.utf8ByteSize ≤ maxNameBytes := by omega
                  simp [hup, hlong, hle, eq_comm]

/-- A place that a path leads to has the last name of the path. -/
theorem getLast?_of_target (h : t.target p = .ok (.place place)) :
    place.getLast? = p.name? := by
  obtain ⟨_, _, name, _, hname, _, _, rfl⟩ := target_eq_place_iff.mp h
  rw [hname, List.getLast?_concat]

theorem ne_nil_of_target (h : t.target p = .ok (.place place)) : place ≠ [] := by
  obtain ⟨_, _, _, _, _, _, _, rfl⟩ := target_eq_place_iff.mp h
  exact List.concat_ne_nil _ _

/-- A path leads to the same place in trees with the same directories. -/
theorem SameDirectories.target_iff (h : SameDirectories t t') (p : Path)
    (goal : Target) : t'.target p = .ok goal ↔ t.target p = .ok goal := by
  have hstart : t'.start p = t.start p := by
    unfold start
    rw [h.home]
  unfold target
  rw [hstart]
  cases hfits : fits p with
  | false => simp
  | true =>
      cases hwalk : t.walk (t.start p) p.names.dropLast with
      | ok directory => rw [(h.walk_iff _ _ _).mpr hwalk]
      | error problem =>
          cases hwalk' : t'.walk (t.start p) p.names.dropLast with
          | error problem' => simp
          | ok directory =>
              rw [h.walk_iff, hwalk] at hwalk'
              contradiction

theorem SameDirectories.target_iff_error (h : SameDirectories t t') (p : Path) :
    (∃ problem, t'.target p = .error problem) ↔
      ∃ problem, t.target p = .error problem := by
  have hok := h.target_iff p
  cases hbefore : t.target p with
  | ok goal => simp [(hok goal).mpr hbefore]
  | error problem =>
      cases hafter : t'.target p with
      | ok goal =>
          rw [hok, hbefore] at hafter
          contradiction
      | error problem' => simp

theorem look?_of_target (h : t.target p = .ok (.place place)) :
    t.look? p = t.seen? place := by
  unfold look?
  rw [h]

/-- What stands where a path leads is told by the directories and by what is seen
at its place. -/
theorem SameDirectories.look?_eq (h : SameDirectories t t')
    (hseen : ∀ place, t.target p = .ok (.place place) →
      t'.seen? place = t.seen? place) :
    t'.look? p = t.look? p := by
  unfold look?
  cases hbefore : t.target p with
  | ok goal =>
      rw [(h.target_iff p goal).mpr hbefore]
      cases goal with
      | place place => exact hseen place hbefore
      | unnamed => rfl
  | error problem =>
      obtain ⟨problem', hafter⟩ :=
        (h.target_iff_error p).mpr ⟨problem, hbefore⟩
      rw [hafter]

/-! ## Trees that differ where some paths lead -/

/-- The same trees but for the files where some paths lead. -/
structure SameBut (ps : List Path) (t t' : Tree) : Prop where
  directories : SameDirectories t t'
  seen_eq : ∀ place, (∀ q ∈ ps, t.target q ≠ .ok (.place place)) →
    t'.seen? place = t.seen? place

namespace SameBut

variable {ps qs : List Path}

theorem refl (ps : List Path) (t : Tree) : SameBut ps t t :=
  ⟨.refl t, fun _ _ => rfl⟩

theorem mono (h : SameBut ps t t') (hsub : ps ⊆ qs) : SameBut qs t t' :=
  ⟨h.directories, fun place hplace =>
    h.seen_eq place fun q hq => hplace q (hsub hq)⟩

theorem trans (h : SameBut ps t t') (h' : SameBut ps t' t'') :
    SameBut ps t t'' := by
  refine ⟨h.directories.trans h'.directories, fun place hplace => ?_⟩
  have hplace' : ∀ q ∈ ps, t'.target q ≠ .ok (.place place) := by
    intro q hq htarget
    exact hplace q hq ((h.directories.target_iff q _).mp htarget)
  rw [h'.seen_eq place hplace', h.seen_eq place hplace]

/-- A path that leads to none of the places sees no difference. -/
theorem look?_eq (h : SameBut ps t t')
    (hapart : ∀ place, t.target p = .ok (.place place) →
      ∀ q ∈ ps, t.target q ≠ .ok (.place place)) :
    t'.look? p = t.look? p :=
  h.directories.look?_eq fun place hplace =>
    h.seen_eq place (hapart place hplace)

/-- A tree that looks different only where some paths lead, and has no directory
there before or after. -/
theorem of_seen (hhome : t'.home = t.home)
    (hseen : ∀ place, t'.seen? place = t.seen? place ∨
      (t.seen? place ≠ some none ∧ t'.seen? place ≠ some none ∧
        ∃ q ∈ ps, t.target q = .ok (.place place))) : SameBut ps t t' := by
  refine ⟨⟨hhome, fun place => ?_⟩, fun place hplace => ?_⟩
  · rcases hseen place with heq | ⟨hbefore, hafter, -⟩
    · rw [heq]
    · exact iff_of_false hafter hbefore
  · rcases hseen place with heq | ⟨-, -, q, hq, htarget⟩
    · exact heq
    · exact absurd htarget (hplace q hq)

theorem of_update {seen : Option (Option (List UInt8))}
    (htarget : t.target p = .ok (.place place)) (hhome : t'.home = t.home)
    (hseen : t'.seen? = Function.update t.seen? place seen)
    (hbefore : t.seen? place ≠ some none) (hafter : seen ≠ some none) :
    SameBut [p] t t' := by
  refine of_seen hhome fun other => ?_
  rw [hseen]
  by_cases hother : other = place
  · subst other
    rw [Function.update_self]
    exact .inr ⟨hbefore, hafter, p, List.mem_singleton_self p, htarget⟩
  · exact .inl (Function.update_of_ne hother _ _)

end SameBut

/-! ## What opening and moving come to -/

/-- Whether a path leads to a place that can hold a file: to no directory. -/
def Holds (t : Tree) (p : Path) : Prop :=
  ∃ place, t.target p = .ok (.place place) ∧ t.seen? place ≠ some none

theorem SameDirectories.holds_iff (h : SameDirectories t t') (p : Path) :
    t'.Holds p ↔ t.Holds p := by
  unfold Holds
  simp only [h.target_iff, Ne, h.seen_iff]

theorem holds_of_look? {body : List UInt8} (h : t.look? p = some (some body)) :
    t.Holds p := by
  unfold look? at h
  split at h
  · next place htarget => exact ⟨place, htarget, by simp [h]⟩
  · cases h
  · cases h

/-- A file that is opened for writing is empty, and nothing else changes. -/
theorem openEmptied_spec (h : t.openEmptied p = .ok (t', id)) :
    SameBut [p] t t' ∧ ∃ place, t.target p = .ok (.place place) ∧
      t'.node? place = some (.file id) ∧ t'.bytes id = [] := by
  unfold openEmptied at h
  split at h
  · contradiction
  · contradiction
  · next place htarget =>
      split at h
      · contradiction
      · next file hnode =>
          cases h
          have hbefore : t.seen? place ≠ some none := by
            simp [seen?_of_file hnode]
          exact ⟨.of_update htarget rfl (seen?_setBytes hnode []) hbefore
            (by simp), place, htarget, hnode, by simp [setBytes]⟩
      · next hnode =>
          cases h
          have hplace := ne_nil_of_target htarget
          have hbefore : t.seen? place ≠ some none := by
            simp [seen?, hnode]
          refine ⟨.of_update htarget rfl (seen?_putFile hplace) hbefore
            (by simp), place, htarget, ?_, by simp [putFile]⟩
          rw [node?_putFile hplace, Function.update_self]

theorem exists_openEmptied (h : t.Holds p) :
    ∃ t' id, t.openEmptied p = .ok (t', id) := by
  obtain ⟨place, htarget, hseen⟩ := h
  rw [Ne, seen?_eq_directory_iff] at hseen
  unfold openEmptied
  rw [htarget]
  dsimp only
  split
  · contradiction
  · exact ⟨_, _, rfl⟩
  · exact ⟨_, _, rfl⟩

/-- A file that is moved is seen at the new place and no longer at the old one,
and nothing else changes. -/
theorem move_spec {goal : Path} (h : t.move p goal = .ok t')
    (hapart : ∀ place, t.target p = .ok (.place place) →
      t.target goal ≠ .ok (.place place)) :
    SameBut [goal, p] t t' ∧ t'.look? goal = t.look? p ∧
      t'.look? p = none := by
  unfold move at h
  split at h
  · contradiction
  · contradiction
  · contradiction
  · contradiction
  · next here there hhere hthere =>
      split at h
      · contradiction
      · contradiction
      · contradiction
      · next node id hnode hdirectory =>
          cases h
          have hne : here ≠ there := by
            rintro rfl
            exact hapart here hhere hthere
          have hseen := seen?_relocate (ne_nil_of_target hhere)
            (ne_nil_of_target hthere) (mem_nodes_of_node? hnode)
          have hsame : SameBut [goal, p] t
              (t.relocate here there id (mem_nodes_of_node? hnode)) := by
            refine .of_seen rfl fun place => ?_
            rw [hseen]
            by_cases hplace : place = there
            · subst place
              rw [Function.update_self]
              refine .inr ⟨?_, by simp, goal, by simp, hthere⟩
              rw [Ne, seen?_eq_directory_iff]
              exact hdirectory
            · rw [Function.update_of_ne hplace]
              by_cases hsource : place = here
              · subst place
                rw [Function.update_self]
                refine .inr ⟨?_, by simp, p, by simp, hhere⟩
                simp [seen?_of_file hnode]
              · exact .inl (Function.update_of_ne hsource _ _)
          have hhere' := (hsame.directories.target_iff p _).mpr hhere
          have hthere' := (hsame.directories.target_iff goal _).mpr hthere
          refine ⟨hsame, ?_, ?_⟩
          · rw [look?_of_target hthere', look?_of_target hhere, hseen,
              Function.update_self, seen?_of_file hnode]
          · rw [look?_of_target hhere', hseen, Function.update_of_ne hne,
              Function.update_self]

theorem exists_move {goal : Path} (hhere : t.target p = .ok (.place here))
    (hnode : t.node? here = some (.file id)) (hgoal : t.Holds goal) :
    ∃ t', t.move p goal = .ok t' := by
  obtain ⟨there, hthere, hseen⟩ := hgoal
  rw [Ne, seen?_eq_directory_iff] at hseen
  unfold move
  rw [hhere, hthere]
  dsimp only
  split
  · next hnone =>
      rw [hnone] at hnode
      cases hnode
  · next hdirectory =>
      rw [hdirectory] at hnode
      cases hnode
  · contradiction
  · exact ⟨_, rfl⟩

/-! ## Which file stands where -/

theorem node?_openEmptied (h : t.openEmptied p = .ok (t', id)) :
    ∃ place, t.target p = .ok (.place place) ∧
      t'.node? = Function.update t.node? place (some (.file id)) ∧
      t'.bytes = Function.update t.bytes id [] := by
  unfold openEmptied at h
  split at h
  · contradiction
  · contradiction
  · next place htarget =>
      split at h
      · contradiction
      · next file hnode =>
          cases h
          refine ⟨place, htarget, ?_, ?_⟩
          · rw [← hnode, Function.update_eq_self]
            rfl
          · funext other
            simp [setBytes, Function.update_apply]
      · next hnode =>
          cases h
          refine ⟨place, htarget, node?_putFile (ne_nil_of_target htarget), ?_⟩
          funext other
          simp [putFile, Function.update_apply]

theorem node?_move {goal : Path} (h : t.move p goal = .ok t') :
    ∃ here there id, t.target p = .ok (.place here) ∧
      t.target goal = .ok (.place there) ∧ t.node? here = some (.file id) ∧
      t'.node? = Function.update (Function.update t.node? here none) there
        (some (.file id)) ∧
      t'.bytes = t.bytes := by
  unfold move at h
  split at h
  · contradiction
  · contradiction
  · contradiction
  · contradiction
  · next here there hhere hthere =>
      split at h
      · contradiction
      · contradiction
      · contradiction
      · next node id hnode hdirectory =>
          cases h
          have hrelocated := node?_relocate (ne_nil_of_target hhere)
            (ne_nil_of_target hthere) (mem_nodes_of_node? hnode)
          exact ⟨here, there, id, hhere, hthere, hnode, hrelocated, rfl⟩

/-! ## Writing -/

/-- What is written at the end is put behind the bytes. -/
theorem overlaid_length (bytes chunk : List UInt8) :
    overlaid bytes bytes.length chunk = bytes ++ chunk := by
  cases chunk with
  | nil => simp [overlaid]
  | cons byte chunk =>
      have hbehind : bytes.drop (bytes.length + (byte :: chunk).length) = [] := by
        rw [List.drop_eq_nil_iff]
        omega
      simp only [overlaid, List.isEmpty_cons, Bool.false_eq_true, if_false,
        Nat.sub_self, List.replicate_zero, List.take_length, hbehind]
      simp

/-- A byte of what results is an old one, a new one, or a zero in the gap before the
new ones. -/
theorem getElem?_overlaid {bytes chunk : List UInt8} {offset i : ℕ} {byte : UInt8}
    (h : (overlaid bytes offset chunk)[i]? = some byte) :
    bytes[i]? = some byte ∨ (chunk ≠ [] ∧ i < offset ∧ byte = 0) ∨
      offset ≤ i ∧ chunk[i - offset]? = some byte := by
  unfold overlaid at h
  split at h
  · exact .inl h
  · next hchunk =>
    have hfront : (bytes.take offset ++
        List.replicate (offset - bytes.length) 0).length = offset := by
      simp only [List.length_append, List.length_take, List.length_replicate]
      omega
    -- From front to back: old bytes and the gap, the chunk, old bytes again.
    rw [List.getElem?_append] at h
    split at h
    · rw [List.getElem?_append, hfront] at h
      split at h
      · next hbefore =>
          rw [List.getElem?_append] at h
          split at h
          · rw [List.getElem?_take] at h
            exact .inl (Option.ite_none_right_eq_some.mp h).2
          · have hzero := List.eq_of_mem_replicate (List.mem_of_getElem? h)
            rw [List.isEmpty_iff] at hchunk
            exact .inr (.inl ⟨hchunk, hbefore, hzero⟩)
      · next hle => exact .inr (.inr ⟨Nat.le_of_not_lt hle, h⟩)
    · next hle =>
        rw [List.length_append, hfront] at hle h
        have hindex : offset + chunk.length + (i - (offset + chunk.length)) = i := by
          omega
        rw [List.getElem?_drop, hindex] at h
        exact .inl h

/-- Writing to a file is not seen where it does not stand. -/
theorem seen?_write_of_ne (h : t.node? place ≠ some (.file id)) (offset : ℕ)
    (chunk : List UInt8) :
    (t.write id offset chunk).seen? place = t.seen? place := by
  have hnode : (t.write id offset chunk).node? place = t.node? place := rfl
  unfold seen?
  rw [hnode]
  cases hseen : t.node? place with
  | none => rfl
  | some node =>
      cases node with
      | directory => rfl
      | file other =>
          have hother : other ≠ id := by
            rintro rfl
            exact h hseen
          simp [Node.listed, write, setBytes, hother]

end CallRegistry.File.Tree
