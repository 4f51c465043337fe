import Mathlib.Logic.Relation
import CallRegistry.Proofs.TreeView
import CallRegistry.Token.Fetch

/-!
# Tokens are replaced in one piece

While a token is fetched the tree is looked at, and the fetch may fail or be refused
by the system, at any moment: between two steps of the replacement, or when only some
of the bytes have reached the draft.  What the tree shows at each stage is said once, by
`Replacement.Stands`; a step leads from one stage to the next, and so every moment
of every fetch is covered.

Only the last step touches the token file, and it does so in one piece: it is seen
as it was, until it is seen with the whole body of the response.
-/

namespace CallRegistry.Token

open File (Path Place Tree FileId Mishap Juncture)
open File.Tree (SameDirectories SameBut)
open Http (Outcome Url)

/-! ## The draft -/

theorem draft?_eq_some_iff {goal draft : Path} :
    draft? goal = some draft ↔ ∃ name, goal.name? = some name ∧
      draft = ⟨goal.root, goal.names.dropLast ++ [name ++ draftSuffix]⟩ := by
  unfold draft? Path.withSuffix?
  rw [Option.map_eq_some_iff]
  simp only [eq_comm]

theorem name?_draft {goal draft : Path} {name : String}
    (h : draft? goal = some draft) (hname : goal.name? = some name) :
    draft.name? = some (name ++ draftSuffix) := by
  obtain ⟨name', hname', rfl⟩ := draft?_eq_some_iff.mp h
  rw [hname] at hname'
  cases hname'
  exact List.getLast?_concat

theorem name?_draft_ne {goal draft : Path} (h : draft? goal = some draft) :
    draft.name? ≠ goal.name? := by
  obtain ⟨name, hname, -⟩ := draft?_eq_some_iff.mp h
  rw [name?_draft h hname, hname]
  intro hsame
  have hlength := congrArg String.length (Option.some.inj hsame)
  rw [String.length_append] at hlength
  have hsuffix : draftSuffix.length = 4 := rfl
  omega

/-- The draft never stands where the token file stands. -/
theorem draft_apart {goal draft : Path} (h : draft? goal = some draft) {t : Tree}
    {place : Place} (hdraft : t.target draft = .ok (.place place)) :
    t.target goal ≠ .ok (.place place) := by
  intro hgoal
  apply name?_draft_ne h
  rw [← File.Tree.getLast?_of_target hdraft, File.Tree.getLast?_of_target hgoal]

/-- Whatever happens to the draft, the token file is as it was. -/
theorem look?_goal {goal draft : Path} (h : draft? goal = some draft)
    {t t' : Tree} (hsame : SameBut [draft] t t') :
    t'.look? goal = t.look? goal := by
  apply hsame.look?_eq
  intro place hgoal q hq hdraft
  rw [List.mem_singleton.mp hq] at hdraft
  exact draft_apart h hdraft hgoal

namespace Replacement

variable {r : Replacement} {t t' t'' : Tree} {stage : Stage}

theorem plan_of_draft {goal draft : Path} (h : draft? goal = some draft)
    (body : List UInt8) : plan goal body = .ok ⟨goal, draft, body⟩ := by
  unfold plan
  rw [h]

/-! ## The moments of a replacement -/

/-- How a replacement goes on: it takes its next step, or some of the bytes reach
the draft before the others, or it fails where it is. -/
inductive Advances (r : Replacement) : Tree × Stage → Tree × Stage → Prop where
  | step (t : Tree) (stage : Stage) : Advances r (t, stage) (r.step t stage)
  | part (t : Tree) (file : FileId) (offset n : ℕ) :
      Advances r (t, .buffered file offset)
        (t.write file offset (r.chunk offset n),
          .buffered file (offset + (r.chunk offset n).length))
  | fail (t : Tree) (stage : Stage) (fault : ReplacementFault)
      (hstage : stage ≠ .installed) : Advances r (t, stage) (t, .failed fault)

/-- A replacement goes on for a while. -/
def Run (r : Replacement) : Tree × Stage → Tree × Stage → Prop :=
  Relation.ReflTransGen r.Advances

theorem run_steps (r : Replacement) (n : ℕ) (now : Tree × Stage) :
    r.Run now (r.steps n now) := by
  induction n generalizing now with
  | zero => exact .refl
  | succ n ih =>
      obtain ⟨t, stage⟩ := now
      exact .head (.step t stage) (ih _)

/-- The draft is open, holds some bytes, and everything else is as before. -/
structure Drafted (r : Replacement) (t t' : Tree) (file : FileId)
    (bytes : List UInt8) : Prop where
  same : SameBut [r.draft] t t'
  open_at : ∃ place, t'.target r.draft = .ok (.place place) ∧
    t'.node? place = some (.file file)
  holds : t'.bytes file = bytes

/-- The token is in place, and the draft is gone. -/
structure Installed (r : Replacement) (t t' : Tree) : Prop where
  same : SameBut [r.goal, r.draft] t t'
  goal_eq : t'.look? r.goal = some (some r.body)
  draft_eq : t'.look? r.draft = none

/-- What the tree shows at a stage, against the tree before the replacement. -/
def Stands (r : Replacement) (t t' : Tree) : Stage → Prop
  | .planned => t' = t
  | .opened file => r.Drafted t t' file []
  | .buffered file offset =>
    offset ≤ r.body.length ∧ r.Drafted t t' file (r.body.take offset)
  | .written file => r.Drafted t t' file r.body
  | .durable => ∃ file, r.Drafted t t' file r.body
  | .installed => r.Installed t t'
  | .failed _ => SameBut [r.draft] t t'

/-- Writing to the draft puts the chunk over the bytes it holds. -/
theorem Drafted.write {file : FileId} {bytes : List UInt8}
    (h : r.Drafted t t' file bytes) (offset : ℕ) (chunk : List UInt8) :
    r.Drafted t (t'.write file offset chunk) file
      (File.Tree.overlaid bytes offset chunk) := by
  obtain ⟨place, htarget, hnode⟩ := h.open_at
  have hbefore : t'.seen? place ≠ some none := by
    simp [File.Tree.seen?_of_file hnode]
  have hsame : SameBut [r.draft] t' (t'.write file offset chunk) :=
    .of_update htarget rfl (File.Tree.seen?_setBytes hnode _) hbefore (by simp)
  refine ⟨h.same.trans hsame, ⟨place, ?_, hnode⟩, ?_⟩
  · exact (hsame.directories.target_iff r.draft _).mpr htarget
  · simp [Tree.write, Tree.setBytes, h.holds]

/-- The next bytes of the token come behind those that are there. -/
theorem Drafted.write_chunk {file : FileId} {offset : ℕ}
    (h : r.Drafted t t' file (r.body.take offset))
    (hoffset : offset ≤ r.body.length) (n : ℕ) :
    r.Drafted t (t'.write file offset (r.chunk offset n)) file
      (r.body.take (offset + (r.chunk offset n).length)) := by
  have hwritten := h.write offset (r.chunk offset n)
  have hbehind := File.Tree.overlaid_length (r.body.take offset) (r.chunk offset n)
  rw [List.length_take_of_le hoffset] at hbehind
  have hchunk : r.chunk offset n =
      (r.body.drop offset).take (r.chunk offset n).length :=
    List.prefix_iff_eq_take.mp (List.take_prefix n _)
  rw [hbehind] at hwritten
  rw [List.take_add, ← hchunk]
  exact hwritten

theorem length_chunk_le (r : Replacement) (offset n : ℕ) :
    (r.chunk offset n).length ≤ r.body.length - offset := by
  simp [chunk]

theorem chunk_all (r : Replacement) (offset : ℕ) :
    r.chunk offset r.body.length = r.body.drop offset :=
  List.take_of_length_le (by simp)

theorem stands_openDraft (r : Replacement) (t : Tree) :
    r.Stands t (r.openDraft t).1 (r.openDraft t).2 := by
  unfold openDraft
  split
  · exact .refl _ t
  · split
    · next t' file hopen =>
        obtain ⟨hsame, place, htarget, hnode, hbytes⟩ :=
          File.Tree.openEmptied_spec hopen
        exact ⟨hsame, ⟨place,
          (hsame.directories.target_iff r.draft _).mpr htarget, hnode⟩, hbytes⟩
    · exact .refl _ t

theorem Drafted.stands_install {file : FileId}
    (hdraft : draft? r.goal = some r.draft) (h : r.Drafted t t' file r.body) :
    r.Stands t (r.install t').1 (r.install t').2 := by
  unfold install
  split
  · next t'' hmove =>
      obtain ⟨hsame, hgoal, hgone⟩ :=
        File.Tree.move_spec hmove fun _ => draft_apart hdraft
      obtain ⟨place, htarget, hnode⟩ := h.open_at
      rw [File.Tree.look?_of_target htarget, File.Tree.seen?_of_file hnode,
        h.holds] at hgoal
      exact ⟨(h.same.mono (by simp)).trans hsame, hgoal, hgone⟩
  · exact h.same

theorem Stands.sameBut_draft (h : r.Stands t t' stage)
    (hstage : stage ≠ .installed) : SameBut [r.draft] t t' := by
  cases stage with
  | planned =>
      cases h
      exact .refl _ t
  | opened file => exact h.same
  | buffered file offset => exact h.2.same
  | written file => exact h.same
  | durable =>
      obtain ⟨file, hfile⟩ := h
      exact hfile.same
  | installed => contradiction
  | failed fault => exact h

/-- However a replacement goes on, the tree shows what it should. -/
theorem Stands.advance {now next : Tree × Stage}
    (hdraft : draft? r.goal = some r.draft) (h : r.Stands t now.1 now.2)
    (hnext : r.Advances now next) : r.Stands t next.1 next.2 := by
  cases hnext with
  | step t' stage =>
      cases stage with
      | planned =>
          cases h
          exact stands_openDraft r t'
      | opened file => exact ⟨Nat.zero_le _, h⟩
      | buffered file offset =>
          obtain ⟨hoffset, hdrafted⟩ := h
          have hwhole := hdrafted.write_chunk hoffset r.body.length
          have hend : offset + (r.chunk offset r.body.length).length =
              r.body.length := by
            rw [chunk_all, List.length_drop, Nat.add_sub_cancel' hoffset]
          rw [hend, List.take_length] at hwhole
          exact hwhole
      | written file => exact ⟨file, h⟩
      | durable =>
          obtain ⟨file, hfile⟩ := h
          exact hfile.stands_install hdraft
      | installed => exact h
      | failed fault => exact h
  | part t' file offset n =>
      obtain ⟨hoffset, hdrafted⟩ := h
      have hlength := r.length_chunk_le offset n
      exact ⟨by omega, hdrafted.write_chunk hoffset n⟩
  | fail t' stage fault hstage => exact h.sameBut_draft hstage

theorem stands_of_run {now : Tree × Stage}
    (hdraft : draft? r.goal = some r.draft) (h : r.Run (t, .planned) now) :
    r.Stands t now.1 now.2 := by
  induction h with
  | refl => rfl
  | tail _ hnext ih => exact ih.advance hdraft hnext

/-! ## The end of a replacement -/

/-- Whether a token file can be replaced: the draft can be opened and then moved. -/
structure Replaceable (r : Replacement) (t : Tree) : Prop where
  plain : r.draft.text.toList.contains '\x00' = false
  draft : t.Holds r.draft
  goal : t.Holds r.goal

theorem replaceable_iff (h : SameDirectories t t') :
    r.Replaceable t' ↔ r.Replaceable t := by
  constructor
  · rintro ⟨hplain, hdraft, hgoal⟩
    exact ⟨hplain, (h.holds_iff _).mp hdraft, (h.holds_iff _).mp hgoal⟩
  · rintro ⟨hplain, hdraft, hgoal⟩
    exact ⟨hplain, (h.holds_iff _).mpr hdraft, (h.holds_iff _).mpr hgoal⟩

theorem openDraft_of_replaceable (h : r.Replaceable t) :
    ∃ t' file, r.openDraft t = (t', .opened file) := by
  obtain ⟨t', file, hopen⟩ := File.Tree.exists_openEmptied h.draft
  refine ⟨t', file, ?_⟩
  unfold openDraft
  rw [h.plain, hopen]
  rfl

theorem Drafted.install_of_replaceable {file : FileId} {bytes : List UInt8}
    (h : r.Drafted t t' file bytes) (hreplaceable : r.Replaceable t) :
    ∃ t'', r.install t' = (t'', .installed) := by
  obtain ⟨place, htarget, hnode⟩ := h.open_at
  have hgoal := (h.same.directories.holds_iff r.goal).mpr hreplaceable.goal
  obtain ⟨t'', hmove⟩ := File.Tree.exists_move htarget hnode hgoal
  refine ⟨t'', ?_⟩
  unfold install
  rw [hmove]

theorem steps_failed (n : ℕ) (fault : ReplacementFault) :
    r.steps n (t, .failed fault) = (t, .failed fault) := by
  induction n with
  | zero => rfl
  | succ n ih => exact ih

theorem steps_of_opened {file : FileId} (h : r.openDraft t = (t', .opened file)) :
    r.steps length (t, .planned) = r.install (t'.write file 0 r.body) := by
  simp [length, steps, step, h, chunk_all]

/-- A replacement that can be carried out is. -/
theorem installed_of_replaceable (h : r.Replaceable t) :
    (r.steps length (t, .planned)).2 = .installed := by
  obtain ⟨t', file, hopen⟩ := openDraft_of_replaceable h
  have hdrafted := stands_openDraft r t
  rw [hopen] at hdrafted
  obtain ⟨t'', hinstall⟩ :=
    (Drafted.write hdrafted 0 r.body).install_of_replaceable h
  rw [steps_of_opened hopen, hinstall]

theorem openDraft_cases (r : Replacement) (t : Tree) :
    (r.draft.text.toList.contains '\x00' = false ∧
      ∃ t' file, r.openDraft t = (t', .opened file)) ∨
    ∃ fault, r.openDraft t = (t, .failed fault) := by
  unfold openDraft
  split
  · exact .inr ⟨_, rfl⟩
  · next hplain =>
      split
      · exact .inl ⟨Bool.eq_false_iff.mpr hplain, _, _, rfl⟩
      · exact .inr ⟨_, rfl⟩

theorem install_cases (r : Replacement) (t : Tree) :
    (∃ t', r.install t = (t', .installed)) ∨
    ∃ fault, r.install t = (t, .failed fault) := by
  unfold install
  split
  · exact .inl ⟨_, rfl⟩
  · exact .inr ⟨_, rfl⟩

theorem Drafted.holds_draft {file : FileId} {bytes : List UInt8}
    (h : r.Drafted t t' file bytes) : t.Holds r.draft := by
  obtain ⟨place, htarget, hnode⟩ := h.open_at
  rw [← h.same.directories.holds_iff]
  exact ⟨place, htarget, by simp [File.Tree.seen?_of_file hnode]⟩

/-- A replacement that cannot be carried out fails. -/
theorem failed_of_not_replaceable (hdraft : draft? r.goal = some r.draft)
    (h : ¬ r.Replaceable t) :
    ∃ fault, (r.steps length (t, .planned)).2 = .failed fault := by
  rcases r.openDraft_cases t with ⟨hplain, t', file, hopen⟩ | ⟨fault, hopen⟩
  · rw [steps_of_opened hopen]
    rcases r.install_cases (t'.write file 0 r.body) with
      ⟨t'', hinstall⟩ | ⟨fault, hinstall⟩
    · -- Had the draft been moved, nothing would have stood in the way.
      have hdrafted := stands_openDraft r t
      have hend := stands_of_run hdraft (r.run_steps length (t, .planned))
      rw [hopen] at hdrafted
      rw [steps_of_opened hopen, hinstall] at hend
      have hgoal : t.Holds r.goal := by
        rw [← hend.same.directories.holds_iff]
        exact File.Tree.holds_of_look? hend.goal_eq
      exact absurd ⟨hplain, hdrafted.holds_draft, hgoal⟩ h
    · exact ⟨fault, congrArg Prod.snd hinstall⟩
  · refine ⟨fault, ?_⟩
    have hsteps : r.steps length (t, .planned) =
        r.steps 4 (r.openDraft t) := rfl
    rw [hsteps, hopen, steps_failed]

/-! ## Refusals -/

variable {mishap : Option Mishap}

theorem steps_ne_installed (r : Replacement) (t : Tree) (juncture : Juncture) :
    (r.steps (stepsBefore juncture) (t, .planned)).2 ≠ .installed := by
  rcases r.openDraft_cases t with ⟨-, t', file, hopen⟩ | ⟨fault, hopen⟩ <;>
    cases juncture <;> simp [stepsBefore, steps, step, hopen]

/-- A replacement that is refused has failed, and came to that step by step. -/
theorem spoil_spec (m : Mishap) {now : Tree × Stage}
    (hrun : r.Run (t, .planned) now) (hstage : now.2 ≠ .installed) :
    r.Run (t, .planned) (r.spoil m now) ∧
      ∃ fault, (r.spoil m now).2 = .failed fault := by
  obtain ⟨t', stage⟩ := now
  have hfail (fault : ReplacementFault) :
      r.Run (t, .planned) (t', .failed fault) :=
    hrun.tail (.fail t' stage fault hstage)
  cases stage with
  | planned =>
      unfold spoil
      dsimp only
      split
      · exact ⟨hfail _, _, rfl⟩
      · exact ⟨hfail _, _, rfl⟩
  | buffered file offset =>
      have hpart := hrun.tail (.part t' file offset m.juncture.written)
      have hrefused := hpart.tail
        (.fail _ (.buffered file _) (.system m.failure) (by simp))
      exact ⟨hrefused, _, rfl⟩
  | opened file => exact ⟨hfail _, _, rfl⟩
  | written file => exact ⟨hfail _, _, rfl⟩
  | durable => exact ⟨hfail _, _, rfl⟩
  | installed => exact absurd rfl hstage
  | failed fault => exact ⟨hrun, fault, rfl⟩

theorem run_carryOut (r : Replacement) (mishap : Option Mishap) (t : Tree) :
    r.Run (t, .planned) (r.carryOut mishap t) := by
  cases mishap with
  | none => exact r.run_steps length (t, .planned)
  | some m =>
      exact (spoil_spec m (r.run_steps _ (t, .planned))
        (r.steps_ne_installed t m.juncture)).1

/-- A replacement is carried out where it can be and nothing is refused. -/
theorem carryOut_cases (hdraft : draft? r.goal = some r.draft)
    (mishap : Option Mishap) (t : Tree) :
    ((r.carryOut mishap t).2 = .installed ∧ r.Replaceable t ∧ mishap = none) ∨
    ((∃ fault, (r.carryOut mishap t).2 = .failed fault) ∧
      ¬ (r.Replaceable t ∧ mishap = none)) := by
  cases mishap with
  | none =>
      by_cases hreplaceable : r.Replaceable t
      · exact .inl ⟨installed_of_replaceable hreplaceable, hreplaceable, rfl⟩
      · exact .inr ⟨failed_of_not_replaceable hdraft hreplaceable,
          fun h => hreplaceable h.1⟩
  | some m =>
      have hspoiled := spoil_spec m (r.run_steps _ (t, .planned))
        (r.steps_ne_installed t m.juncture)
      exact .inr ⟨hspoiled.2, by simp⟩

theorem installed_carryOut_iff (hdraft : draft? r.goal = some r.draft) :
    (r.carryOut mishap t).2 = .installed ↔ r.Replaceable t ∧ mishap = none := by
  rcases carryOut_cases hdraft mishap t with
    ⟨hinstalled, h⟩ | ⟨⟨fault, hfailed⟩, h⟩
  · exact iff_of_true hinstalled h
  · exact iff_of_false (by simp [hfailed]) h

theorem replace_spec (hdraft : draft? r.goal = some r.draft)
    (mishap : Option Mishap) (t : Tree) :
    (replace r.goal r.body t mishap).1 = (r.carryOut mishap t).1 ∧
      ((replace r.goal r.body t mishap).2 = none ↔
        r.Replaceable t ∧ mishap = none) := by
  have hplan : plan r.goal r.body = .ok r := plan_of_draft hdraft r.body
  rcases hlast : r.carryOut mishap t with ⟨t', stage⟩
  rcases carryOut_cases hdraft mishap t with
    ⟨hinstalled, h⟩ | ⟨⟨fault, hfailed⟩, h⟩
  · rw [hlast] at hinstalled
    obtain rfl : stage = .installed := hinstalled
    simp only [replace, hplan, hlast, true_iff]
    exact ⟨trivial, h⟩
  · rw [hlast] at hfailed
    obtain rfl : stage = .failed fault := hfailed
    simp only [replace, hplan, hlast, reduceCtorEq, false_iff]
    exact ⟨trivial, h⟩

end Replacement

/-! ## What comes back -/

/-- The token that the outcome of a request to an address brings. -/
def token? (url : Url) (o : Outcome) : Option (List UInt8) :=
  (TokenSource.read url o).toOption

theorem read_of_token {url : Url} {o : Outcome} {body : List UInt8}
    (h : token? url o = some body) : TokenSource.read url o = .ok body := by
  unfold token? at h
  cases hread : TokenSource.read url o with
  | ok body' =>
      rw [hread] at h
      cases h
      rfl
  | error ending =>
      rw [hread] at h
      cases h

theorem read_of_no_token {url : Url} {o : Outcome} (h : token? url o = none) :
    ∃ ending, TokenSource.read url o = .error ending ∧ ending ≠ .done := by
  unfold token? at h
  cases o with
  | response answer =>
      cases hcontent : answer.content url with
      | ok body => simp [TokenSource.read, hcontent, Except.mapError, Except.toOption] at h
      | error fault => simp [TokenSource.read, hcontent, Except.mapError]
  | failure failure => simp [TokenSource.read]
  | interruption sort message => simp [TokenSource.read]

theorem token?_eq_some_iff {url : Url} {o : Outcome} {body : List UInt8} :
    token? url o = some body ↔
      ∃ answer, o = .response answer ∧ answer.content url = .ok body := by
  unfold token?
  cases o with
  | response answer =>
      cases hcontent : answer.content url <;>
        simp [TokenSource.read, hcontent, Except.mapError, Except.toOption]
  | failure failure => simp [TokenSource.read, Except.toOption]
  | interruption sort message => simp [TokenSource.read, Except.toOption]

/-- A token comes with a status from 200 to 299 only, and it is the whole body. -/
theorem of_content_eq_ok {answer : Http.Response} {url : Url}
    {body : List UInt8} (h : answer.content url = .ok body) :
    200 ≤ answer.status ∧ answer.status ≤ 299 ∧
      answer.decodedBody = .ok body := by
  unfold Http.Response.content at h
  cases hheader : answer.headerFault? with
  | some fault =>
      rw [hheader] at h
      cases h
  | none =>
      rw [hheader] at h
      cases hbody : answer.decodedBody with
      | error fault =>
          rw [hbody] at h
          cases h
      | ok decoded =>
          rw [hbody] at h
          cases hplace : answer.locationFault? url with
          | some fault =>
              simp only [hplace] at h
              cases h
          | none =>
              cases hsuccess : answer.isSuccess with
              | false =>
                  simp only [hplace, hsuccess] at h
                  cases h
              | true =>
                  simp only [hplace, hsuccess] at h
                  cases h
                  simp only [Http.Response.isSuccess, Bool.and_eq_true,
                    decide_eq_true_eq] at hsuccess
                  exact ⟨hsuccess.1, hsuccess.2, rfl⟩

theorem decodedBody_of_plain {answer : Http.Response}
    (h : answer.header? "content-encoding" = none) :
    answer.decodedBody = .ok answer.body := by
  have hcodings : Http.Coding.ofHeader "" = [] := by decide
  unfold Http.Response.decodedBody
  rw [h, Option.getD_none, hcodings]
  rfl

theorem body_of_plain {answer : Http.Response} {url : Url} {body : List UInt8}
    (hcontent : answer.content url = .ok body)
    (hheader : answer.header? "content-encoding" = none) : body = answer.body := by
  obtain ⟨-, -, hdecoded⟩ := of_content_eq_ok hcontent
  rw [decodedBody_of_plain hheader] at hdecoded
  exact (Except.ok.inj hdecoded).symm

namespace TokenSource

variable {s : TokenSource} {draft : Path} {url : Url} {o : Outcome}
  {body : List UInt8} {mishap : Option Mishap} {t t' : Tree}

theorem put_spec (hdraft : draft? s.path = some draft) (body : List UInt8)
    (mishap : Option Mishap) (t : Tree) :
    (s.put body mishap t).1 =
        (Replacement.carryOut ⟨s.path, draft, body⟩ mishap t).1 ∧
      ((s.put body mishap t).2 = .done ↔
        Replacement.Replaceable ⟨s.path, draft, body⟩ t ∧ mishap = none) := by
  obtain ⟨htree, hnone⟩ :=
    Replacement.replace_spec (r := ⟨s.path, draft, body⟩) hdraft mishap t
  rw [← htree, ← hnone]
  unfold put
  split
  · next t' fault hreplace => simp [hreplace]
  · next t' hreplace => simp [hreplace]

theorem receive_of_token (htoken : token? url o = some body) :
    s.receive url o t mishap = s.put body mishap t := by
  rw [receive, read_of_token htoken]

theorem receive_of_no_token (h : token? url o = none) (s : TokenSource) (t : Tree)
    (mishap : Option Mishap) :
    (s.receive url o t mishap).1 = t ∧ (s.receive url o t mishap).2 ≠ .done := by
  obtain ⟨ending, hread, hne⟩ := read_of_no_token h
  rw [receive, hread]
  exact ⟨rfl, hne⟩

/-! ## The moments of a fetch -/

variable {isOpen : Bool} {stage? : Option Replacement.Stage}

/-- The token that a fetch brings, if its request goes out and succeeds. -/
def token? (s : TokenSource) (isOpen : Bool) (o : Outcome) :
    Option (List UInt8) :=
  match s.send isOpen with
  | some (.ok url) => Token.token? url o
  | _ => none

theorem token?_eq_some_iff :
    s.token? isOpen o = some body ↔ ∃ url answer,
      s.send isOpen = some (.ok url) ∧ o = .response answer ∧
        answer.content url = .ok body := by
  unfold token?
  split
  · next url hsend => simp [hsend, Token.token?_eq_some_iff]
  · next hsend =>
      constructor
      · intro h
        cases h
      · rintro ⟨url, answer, hurl, -⟩
        exact absurd hurl (hsend url)

theorem fetch_eq_put (h : s.token? isOpen o = some body) (t : Tree)
    (mishap : Option Mishap) :
    (s.fetch isOpen o t mishap).tree = (s.put body mishap t).1 ∧
      (s.fetch isOpen o t mishap).ending = (s.put body mishap t).2 := by
  unfold token? at h
  split at h
  · next url hsend =>
      unfold fetch
      rw [hsend]
      dsimp only
      rw [receive_of_token h]
      exact ⟨rfl, rfl⟩
  · cases h

theorem fetch_of_token (hdraft : draft? s.path = some draft)
    (h : s.token? isOpen o = some body) (t : Tree) (mishap : Option Mishap) :
    (s.fetch isOpen o t mishap).tree =
        (Replacement.carryOut ⟨s.path, draft, body⟩ mishap t).1 ∧
      ((s.fetch isOpen o t mishap).ending = .done ↔
        Replacement.Replaceable ⟨s.path, draft, body⟩ t ∧ mishap = none) := by
  obtain ⟨htree, hending⟩ := fetch_eq_put h t mishap
  rw [htree, hending]
  exact put_spec hdraft body mishap t

/-- A token that is put in place where nothing stands in the way is installed. -/
theorem put_installs (hdraft : draft? s.path = some draft)
    (hreplaceable : Replacement.Replaceable ⟨s.path, draft, body⟩ t) :
    (s.put body none t).2 = .done ∧
      Replacement.Installed ⟨s.path, draft, body⟩ t (s.put body none t).1 := by
  obtain ⟨htree, hdone⟩ := put_spec hdraft body none t
  have hend := Replacement.stands_of_run hdraft
    (Replacement.run_carryOut ⟨s.path, draft, body⟩ none t)
  rw [(Replacement.installed_carryOut_iff hdraft).mpr ⟨hreplaceable, rfl⟩] at hend
  rw [htree]
  exact ⟨hdone.mpr ⟨hreplaceable, rfl⟩, hend⟩

theorem fetch_of_no_token (h : s.token? isOpen o = none) (t : Tree)
    (mishap : Option Mishap) :
    (s.fetch isOpen o t mishap).tree = t ∧
      ((s.fetch isOpen o t mishap).ending = .done ↔ s.url = none) := by
  unfold token? at h
  cases hurl : s.url with
  | none =>
      have hsend : s.send isOpen = none := by simp [send, hurl]
      simp [fetch, hsend]
  | some address =>
      have hsend : s.send isOpen = some (Http.dispatch isOpen address) := by
        simp [send, hurl]
      rw [hsend] at h
      unfold fetch
      rw [hsend]
      cases hdispatch : Http.dispatch isOpen address with
      | error fault => simp
      | ok url =>
          rw [hdispatch] at h
          obtain ⟨htree, hending⟩ :=
            receive_of_no_token h s t mishap
          simp [htree, hending]

/-- The trees that can be found while a token is fetched, each with the stage of
the replacement if one has begun. -/
inductive Moment (s : TokenSource) (isOpen : Bool) (o : Outcome) (t : Tree) :
    Tree → Option Replacement.Stage → Prop where
  | untouched : Moment s isOpen o t t none
  | replacing {body : List UInt8} {r : Replacement} {t' : Tree}
      {stage : Replacement.Stage} (htoken : s.token? isOpen o = some body)
      (hplan : Replacement.plan s.path body = .ok r)
      (hrun : r.Run (t, .planned) (t', stage)) :
      Moment s isOpen o t t' (some stage)

/-- Until the draft is moved only the draft changes. -/
theorem Moment.sameBut_draft (hdraft : draft? s.path = some draft)
    (h : s.Moment isOpen o t t' stage?) (hstage : stage? ≠ some .installed) :
    SameBut [draft] t t' := by
  cases h with
  | untouched => exact .refl _ t
  | replacing htoken hplan hrun =>
      rw [Replacement.plan_of_draft hdraft] at hplan
      cases hplan
      have hstands := Replacement.stands_of_run hdraft hrun
      exact hstands.sameBut_draft fun hsame => hstage (congrArg some hsame)

/-- Once the draft is moved the token file holds the token. -/
theorem Moment.installed (hdraft : draft? s.path = some draft)
    (h : s.Moment isOpen o t t' (some .installed)) :
    ∃ body, s.token? isOpen o = some body ∧
      Replacement.Installed ⟨s.path, draft, body⟩ t t' := by
  cases h with
  | @replacing body r t' stage htoken hplan hrun =>
      rw [Replacement.plan_of_draft hdraft] at hplan
      cases hplan
      exact ⟨body, htoken, Replacement.stands_of_run hdraft hrun⟩

/-- At any moment only the token file and its draft have changed. -/
theorem Moment.sameBut (hdraft : draft? s.path = some draft)
    (h : s.Moment isOpen o t t' stage?) : SameBut [s.path, draft] t t' := by
  by_cases hstage : stage? = some .installed
  · subst hstage
    obtain ⟨body, -, hinstalled⟩ := h.installed hdraft
    exact hinstalled.same
  · exact (h.sameBut_draft hdraft hstage).mono (by simp)

/-- The end of a fetch is one of its moments. -/
theorem moment_fetch (hdraft : draft? s.path = some draft) (isOpen : Bool)
    (o : Outcome) (t : Tree) (mishap : Option Mishap) :
    ∃ stage?, s.Moment isOpen o t (s.fetch isOpen o t mishap).tree stage? ∧
      ((s.fetch isOpen o t mishap).ending = .done ↔
        s.url = none ∨ stage? = some .installed) := by
  cases htoken : s.token? isOpen o with
  | none =>
      obtain ⟨htree, hdone⟩ := fetch_of_no_token htoken t mishap
      rw [htree]
      exact ⟨none, .untouched, by simp [hdone]⟩
  | some body =>
      obtain ⟨htree, hdone⟩ :=
        fetch_of_token hdraft htoken t mishap
      have hurl : s.url ≠ none := by
        intro hurl
        simp [token?, send, hurl] at htoken
      let r : Replacement := ⟨s.path, draft, body⟩
      have hrun : r.Run (t, .planned)
          ((r.carryOut mishap t).1, (r.carryOut mishap t).2) :=
        r.run_carryOut mishap t
      have hlast : (r.carryOut mishap t).2 = .installed ↔
          r.Replaceable t ∧ mishap = none :=
        Replacement.installed_carryOut_iff hdraft
      refine ⟨some (r.carryOut mishap t).2, ?_, ?_⟩
      · rw [htree]
        exact .replacing htoken (Replacement.plan_of_draft hdraft body) hrun
      · rw [hdone, ← hlast, Option.some.injEq]
        simp only [hurl, false_or]

/-- A fetch that fails changes the draft at most. -/
theorem fetch_sameBut_draft (hdraft : draft? s.path = some draft)
    (h : (s.fetch isOpen o t mishap).ending ≠ .done) :
    SameBut [draft] t (s.fetch isOpen o t mishap).tree := by
  obtain ⟨stage?, hmoment, hdone⟩ := moment_fetch hdraft isOpen o t mishap
  exact hmoment.sameBut_draft hdraft fun hstage => h (hdone.mpr (.inr hstage))

/-- What an earlier fetch left at the draft makes no difference to the token
file. -/
theorem fetch_of_leftover (hdraft : draft? s.path = some draft)
    (h : SameBut [draft] t t') :
    ((s.fetch isOpen o t' mishap).ending = .done ↔
        (s.fetch isOpen o t mishap).ending = .done) ∧
      (s.fetch isOpen o t' mishap).tree.look? s.path =
        (s.fetch isOpen o t mishap).tree.look? s.path := by
  cases htoken : s.token? isOpen o with
  | none =>
      obtain ⟨htree, hdone⟩ := fetch_of_no_token htoken t mishap
      obtain ⟨htree', hdone'⟩ :=
        fetch_of_no_token htoken t' mishap
      rw [htree, htree', hdone, hdone']
      exact ⟨Iff.rfl, look?_goal hdraft h⟩
  | some body =>
      obtain ⟨-, hdone⟩ := fetch_of_token hdraft htoken t mishap
      obtain ⟨-, hdone'⟩ :=
        fetch_of_token hdraft htoken t' mishap
      -- Whether the token can be installed is a matter of the directories alone.
      have hiff : Replacement.Replaceable ⟨s.path, draft, body⟩ t' ↔
          Replacement.Replaceable ⟨s.path, draft, body⟩ t :=
        Replacement.replaceable_iff h.directories
      refine ⟨by rw [hdone, hdone', hiff], ?_⟩
      by_cases hgood : Replacement.Replaceable ⟨s.path, draft, body⟩ t ∧
          mishap = none
      · obtain ⟨hreplaceable, rfl⟩ := hgood
        rw [(fetch_eq_put htoken t' none).1, (fetch_eq_put htoken t none).1]
        have hend := (put_installs hdraft hreplaceable).2
        have hend' := (put_installs hdraft (hiff.mpr hreplaceable)).2
        exact hend'.goal_eq.trans hend.goal_eq.symm
      · have hend := fetch_sameBut_draft hdraft (mt hdone.mp hgood)
        have hend' := fetch_sameBut_draft hdraft
          (mt hdone'.mp (mt (fun h => ⟨hiff.mp h.1, h.2⟩) hgood))
        exact (look?_goal hdraft (h.trans hend')).trans
          (look?_goal hdraft hend).symm

end TokenSource

/-- While a token is fetched, its file is seen as it was before or, once the draft
was moved after a success, with the whole body of the response.  Nothing but the
token file and its draft changes, and what the draft held before makes no
difference, whatever the system refuses.  The trees have no hard or symbolic links. -/
theorem token_replacement_atomic (s : TokenSource) (isOpen : Bool) (o : Outcome)
    (t : Tree) (mishap : Option Mishap) {name : String}
    (hname : s.path.name? = some name) :
    ∃ draft : Path,
      draft = ⟨s.path.root, s.path.names.dropLast ++ [name ++ ".bak"]⟩ ∧
      draft ≠ s.path ∧
      (∀ (tree : Tree) (place : Place),
        tree.target draft = .ok (.place place) →
        tree.target s.path ≠ .ok (.place place)) ∧
      (∀ t' stage?, s.Moment isOpen o t t' stage? →
        SameBut [s.path, draft] t t' ∧
        (stage? ≠ some .installed → t'.look? s.path = t.look? s.path) ∧
        (stage? = some .installed → ∃ url answer body,
          s.send isOpen = some (.ok url) ∧ o = .response answer ∧
          200 ≤ answer.status ∧ answer.status ≤ 299 ∧
          answer.content url = .ok body ∧
          (answer.header? "content-encoding" = none → body = answer.body) ∧
          t'.look? s.path = some (some body) ∧ t'.look? draft = none)) ∧
      (∃ stage?, s.Moment isOpen o t (s.fetch isOpen o t mishap).tree stage? ∧
        ((s.fetch isOpen o t mishap).ending = .done ↔
          s.url = none ∨ stage? = some .installed)) ∧
      ∀ t', SameBut [draft] t t' →
        ((s.fetch isOpen o t' mishap).ending = .done ↔
          (s.fetch isOpen o t mishap).ending = .done) ∧
        (s.fetch isOpen o t' mishap).tree.look? s.path =
          (s.fetch isOpen o t mishap).tree.look? s.path := by
  let draft : Path := ⟨s.path.root, s.path.names.dropLast ++ [name ++ ".bak"]⟩
  have hdraft : draft? s.path = some draft :=
    draft?_eq_some_iff.mpr ⟨name, hname, rfl⟩
  have hne : draft ≠ s.path := by
    intro hsame
    exact name?_draft_ne hdraft (congrArg Path.name? hsame)
  refine ⟨draft, rfl, hne, fun _ _ => draft_apart hdraft, ?_,
    TokenSource.moment_fetch hdraft isOpen o t mishap,
    fun _ => TokenSource.fetch_of_leftover hdraft⟩
  intro t' stage? hmoment
  refine ⟨hmoment.sameBut hdraft, ?_⟩
  by_cases hstage : stage? = some .installed
  · subst hstage
    obtain ⟨body, htoken, hinstalled⟩ := hmoment.installed hdraft
    obtain ⟨url, answer, hsend, rfl, hcontent⟩ :=
      TokenSource.token?_eq_some_iff.mp htoken
    obtain ⟨hlow, hhigh, -⟩ := of_content_eq_ok hcontent
    have hplain : answer.header? "content-encoding" = none →
        body = answer.body := body_of_plain hcontent
    refine ⟨fun h => absurd rfl h, fun _ => ?_⟩
    exact ⟨url, answer, body, hsend, rfl, hlow, hhigh, hcontent, hplain,
      hinstalled.goal_eq, hinstalled.draft_eq⟩
  · have hsame := hmoment.sameBut_draft hdraft hstage
    exact ⟨fun _ => look?_goal hdraft hsame, fun h => absurd h hstage⟩

/-- A token replaces an old one, over a draft that was left behind. -/
theorem token_replacement_over_leftover :
    let s : TokenSource := ⟨some "http://md/t", Path.ofText "/run/token"⟩
    let answer : Http.Response := { status := 200, headers := [], body := [1, 2] }
    let t := ((Tree.empty []).addFile ["run", "token"] [7]).addFile
      ["run", "token.bak"] [8, 8, 8]
    (s.fetch true (.response answer) t).tree.look? s.path =
      some (some [1, 2]) := by
  intro s answer t
  obtain ⟨draft, -, -, -, hmoments, ⟨stage?, hmoment, hdone⟩, -⟩ :=
    token_replacement_atomic s true (.response answer) t none
      (show s.path.name? = some "token" by decide)
  have hending : (s.fetch true (.response answer) t).ending = .done := by
    decide +kernel
  have hstage : stage? = some .installed := by
    simpa using hdone.mp hending
  obtain ⟨url, answer', body, -, hanswer, -, -, -, hplain, hlook, -⟩ :=
    (hmoments _ _ hmoment).2.2 hstage
  obtain rfl : answer = answer' := Http.Outcome.response.inj hanswer
  have hheader : answer.header? "content-encoding" = none := by decide
  rw [hlook, hplain hheader]

end CallRegistry.Token
