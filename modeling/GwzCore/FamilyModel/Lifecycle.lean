import GwzCore.FamilyModel.Validity

/-!
# The life of a row

From the change that allocates a row to the one that removes it, a run of accepted
changes touches nothing of the row but its state, which only moves forward, and its last
error. The family and its root never change, and a change other than `disband` touches
no row of another name.
-/
namespace GwzCore.FamilyModel
open Checks List FiniteMap

/-- Creating, ready, disposing. -/
def MemberState.rank : MemberState → ℕ
  | .creating => 0
  | .ready => 1
  | .disposing => 2

/-- The row is still the one that was allocated. -/
structure SameRow (row later : MemberRow) : Prop where
  path : later.path = row.path
  kind : later.kind = row.kind
  allocationId : later.allocationId = row.allocationId
  sourcePath : later.sourcePath = row.sourcePath
  mode : later.mode = row.mode
  owner : later.owner = row.owner
  forward : row.state.rank ≤ later.state.rank

lemma SameRow.refl (row : MemberRow) : SameRow row row :=
  ⟨rfl, rfl, rfl, rfl, rfl, rfl, le_rfl⟩

lemma SameRow.trans {row later last : MemberRow} (h : SameRow row later)
    (h' : SameRow later last) : SameRow row last where
  path := h'.path.trans h.path
  kind := h'.kind.trans h.kind
  allocationId := h'.allocationId.trans h.allocationId
  sourcePath := h'.sourcePath.trans h.sourcePath
  mode := h'.mode.trans h.mode
  owner := h'.owner.trans h.owner
  forward := h.forward.trans h'.forward

/-- The name of the row a change is about. -/
def FamilyChange.name : FamilyChange → Option MemberName
  | .allocate name _ | .recordError name _ | .markReady name _ | .markDisposing name _
  | .removeRow name _ => some name
  | .disband => none

namespace Accepts
variable {view next : FamilyView} {change : FamilyChange} {name : MemberName} {row : MemberRow}

section

variable (h : Accepts view change next)
include h

lemma root_eq : next.familyId = view.familyId ∧ next.root = view.root := by
  cases h <;> exact ⟨rfl, rfl⟩

/-- Rows of other names stay as they are. -/
lemma others {about : MemberName} (habout : change.name = some about)
    (hne : about ≠ name) : next.members[name]? = view.members[name]? := by
  cases h with
  | disband => cases habout
  | removeRow _ _ =>
    cases habout
    exact get_erase_of_ne _ hne
  | _ =>
    cases habout
    exact get_insert_of_ne _ _ hne

/-- A row that a change keeps is the same row, at most one state further. -/
lemma same (hrow : view.members[name]? = some row)
    {later : MemberRow} (hlater : next.members[name]? = some later) : SameRow row later := by
  have hself : ∀ {about : MemberName} {found written : MemberRow},
      view.members[about]? = some found → (view.write about written).members[name]? = some later →
        SameRow found written → SameRow row later := by
    intro about found written hfound hget hsame
    rcases get_insert_eq_some.mp hget with ⟨rfl, rfl⟩ | ⟨_, hold⟩
    · rw [hrow] at hfound
      cases hfound
      exact hsame
    · rw [hrow] at hold
      cases hold
      exact .refl _
  cases h with
  | allocate about written hstate hfree =>
    rcases get_insert_eq_some.mp hlater with ⟨rfl, _⟩ | ⟨_, hold⟩
    · rw [hrow] at hfree
      cases hfree
    · rw [hrow] at hold
      cases hold
      exact .refl _
  | recordError about found lastError hfound =>
    exact hself hfound hlater ⟨rfl, rfl, rfl, rfl, rfl, rfl, le_rfl⟩
  | markReady about found hfound hstate | markDisposing about found hfound hstate =>
    refine hself hfound hlater ⟨rfl, rfl, rfl, rfl, rfl, rfl, ?_⟩
    simp [hstate, MemberState.rank]
  | removeRow =>
    have hold := (get_erase_eq_some.mp hlater).2
    rw [hrow] at hold
    cases hold
    exact .refl _
  | disband => simp at hlater

/-- A new row is the one its change allocates. -/
lemma appears (hfree : view.members[name]? = none) (hrow : next.members[name]? = some row) :
    change = .allocate name row ∧ row.state = .creating := by
  have hnew : ∀ {about : MemberName} {written : MemberRow},
      (view.members.insert about written)[name]? = some row → about = name ∧ row = written := by
    intro about written hget
    rcases get_insert_eq_some.mp hget with hself | ⟨_, hold⟩
    · exact hself
    · rw [hfree] at hold
      cases hold
  cases h with
  | allocate about written hstate =>
    obtain ⟨rfl, rfl⟩ := hnew hrow
    exact ⟨rfl, hstate⟩
  | removeRow =>
    have hold := (get_erase_eq_some.mp hrow).2
    rw [hfree] at hold
    cases hold
  | disband => simp at hrow
  | recordError about found lastError hfound | markReady about found hfound
  | markDisposing about found hfound =>
    obtain ⟨rfl, _⟩ := hnew hrow
    rw [hfree] at hfound
    cases hfound

/-- A row goes by its removal, as disposed only when it was disposing, or by a disband. -/
lemma leaves (hrow : view.members[name]? = some row) (hgone : next.members[name]? = none) :
    change = .disband ∨ ∃ reason, change = .removeRow name reason ∧
      (reason = .disposed → row.state = .disposing) := by
  have hinsert : ∀ {about : MemberName} {written : MemberRow},
      (view.members.insert about written)[name]? ≠ none := by
    intro about written hnone
    by_cases hsame : about = name
    · rw [hsame, get_insert_self] at hnone
      cases hnone
    · rw [get_insert_of_ne _ _ hsame, hrow] at hnone
      cases hnone
  cases h with
  | disband => exact .inl rfl
  | removeRow about found reason hfound hdisposed =>
    have hsame : about = name := by
      by_contra hne
      have hkept : (view.members.erase about)[name]? = none := hgone
      rw [get_erase_of_ne _ hne, hrow] at hkept
      cases hkept
    subst hsame
    rw [hrow] at hfound
    cases hfound
    exact .inr ⟨reason, rfl, hdisposed⟩
  | _ => exact absurd hgone hinsert

end

end Accepts

lemma runChanges_append (view : FamilyView) (changes more : List FamilyChange) :
    runChanges view (changes ++ more) =
      (runChanges view changes >>= fun mid => runChanges mid more) := by
  induction changes generalizing view with
  | nil => rfl
  | cons change rest ih =>
    simp only [cons_append, runChanges]
    cases validateTransition view change with
    | error => rfl
    | ok validated => exact ih validated.next

/-- While a row stays in the index, a run keeps it the same row. -/
lemma runChanges_same {view final : FamilyView} {changes : List FamilyChange} {name : MemberName}
    {row : MemberRow} (hrun : runChanges view changes = .ok final)
    (hrow : view.members[name]? = some row)
    (hstays : ∀ before mid, before <+: changes → runChanges view before = .ok mid →
      mid.members[name]? ≠ none) :
    ∃ later, final.members[name]? = some later ∧ SameRow row later := by
  induction changes using List.reverseRecOn generalizing final with
  | nil =>
    cases hrun
    exact ⟨row, hrow, .refl row⟩
  | append_singleton changes change ih =>
    rw [runChanges_append] at hrun
    obtain ⟨mid, hmid, hlast⟩ := bind_eq_ok.mp hrun
    obtain ⟨later, hlater, hsame⟩ := ih hmid fun before other hbefore hother =>
      hstays before other (hbefore.trans (prefix_append _ _)) hother
    obtain ⟨validated, hchange, hfinal⟩ := bind_eq_ok.mp hlast
    cases hfinal
    obtain ⟨last, hget⟩ := Option.ne_none_iff_exists'.mp
      (hstays (changes ++ [change]) validated.next prefix_rfl (by
        rw [runChanges_append]
        exact hrun))
    exact ⟨last, hget, hsame.trans ((validateTransition_eq_ok.mp hchange).2.same hlater hget)⟩

/-- In every run of accepted changes from a valid index: the family and its root stay,
and a row that stays in the index keeps all but its state, which moves forward, and its
last error. Along the run a row appears only as its allocation wrote it, goes only by its
removal, as disposed only from disposing, or by a disband, and every other change leaves
the rows of other names as they were. -/
theorem rows_live_forward :
    (∀ view changes final, validateView view = .ok () → runChanges view changes = .ok final →
      final.familyId = view.familyId ∧ final.root = view.root ∧
      ∀ (name : MemberName) (row : MemberRow), view.members[name]? = some row →
        (∀ before mid, before <+: changes → runChanges view before = .ok mid →
          mid.members[name]? ≠ none) →
        ∃ later, final.members[name]? = some later ∧ SameRow row later) ∧
    ∀ view change validated, validateView view = .ok () →
      validateTransition view change = .ok validated →
      ∀ (name : MemberName),
        (∀ row : MemberRow, view.members[name]? = none → validated.next.members[name]? = some row →
          change = .allocate name row ∧ row.state = .creating) ∧
        (∀ row : MemberRow, view.members[name]? = some row → validated.next.members[name]? = none →
          change = .disband ∨ ∃ reason, change = .removeRow name reason ∧
            (reason = .disposed → row.state = .disposing)) ∧
        (change ≠ .disband → change.name ≠ some name →
          validated.next.members[name]? = view.members[name]?) := by
  refine ⟨?_, ?_⟩
  · intro view changes final _ hrun
    have hroot : final.familyId = view.familyId ∧ final.root = view.root := by
      refine runChanges_induction (P := fun v => v.familyId = view.familyId ∧ v.root = view.root)
        ?_ hrun ⟨rfl, rfl⟩
      intro mid change next hchange ⟨hid, hentry⟩
      obtain ⟨hid', hentry'⟩ := hchange.root_eq
      exact ⟨hid'.trans hid, hentry'.trans hentry⟩
    exact ⟨hroot.1, hroot.2, fun name row hrow hstays => runChanges_same hrun hrow hstays⟩
  · intro view change validated _ hchange name
    obtain ⟨_, haccepts⟩ := validateTransition_eq_ok.mp hchange
    refine ⟨fun row hfree hrow => haccepts.appears hfree hrow,
      fun row hrow hgone => haccepts.leaves hrow hgone, fun hdisband hother => ?_⟩
    cases hname : change.name with
    | none => cases change <;> simp_all [FamilyChange.name]
    | some about =>
      refine haccepts.others hname ?_
      rintro rfl
      exact hother hname

open Sample in
/-- A published clone is disposed of, as the row it was, and then removed. -/
theorem sample_rows_live_forward :
    ∃ ready late gone, runChanges founded published = .ok ready
      ∧ runChanges ready [.markDisposing name row.allocationId] = .ok late
      ∧ validateTransition late (.removeRow name .disposed) = .ok gone
      ∧ gone.next.members[name]? = none
      ∧ ∃ later, late.members[name]? = some later ∧ SameRow { row with state := .ready } later
        ∧ later.state = .disposing := by
  obtain ⟨ready, late, gone, hready, hlate, hgone, hvalid, hvalid', hrow, hlater, hnone⟩ :
      ∃ ready late gone, runChanges founded published = .ok ready
        ∧ runChanges ready [.markDisposing name row.allocationId] = .ok late
        ∧ validateTransition late (.removeRow name .disposed) = .ok gone
        ∧ validateView ready = .ok () ∧ validateView late = .ok ()
        ∧ ready.members[name]? = some { row with state := .ready }
        ∧ late.members[name]?.isSome = true ∧ gone.next.members[name]? = none :=
    ⟨_, _, _, rfl, rfl, rfl, by decide +kernel, by decide +kernel, by decide +kernel,
      by decide +kernel, by decide +kernel⟩
  have hstays : ∀ before mid, before <+: [.markDisposing name row.allocationId] →
      runChanges ready before = .ok mid → mid.members[name]? ≠ none := by
    rintro before mid hbefore hmid hgone
    rcases mem_cons.mp (mem_inits _ _ |>.mpr hbefore) with rfl | hlast
    · cases hmid
      rw [hrow] at hgone
      cases hgone
    · rw [mem_singleton.mp hlast, hlate] at hmid
      cases hmid
      rw [hgone] at hlater
      cases hlater
  obtain ⟨hruns, hchanges⟩ := rows_live_forward
  obtain ⟨later, hfound, hsame⟩ := (hruns _ _ _ hvalid hlate).2.2 name _ hrow hstays
  rcases (hchanges _ _ _ hvalid' hgone name).2.1 later hfound hnone with h | ⟨_, h, hstate⟩
  · cases h
  · cases h
    exact ⟨ready, late, gone, hready, hlate, hgone, hnone, later, hfound, hsame, hstate rfl⟩

end GwzCore.FamilyModel
