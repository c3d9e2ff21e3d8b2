import GwzCore.SetupRetry.Slots

/-!
# Numbers leave the pool with the last slot

The governor takes a site's numbers from the pool when it finds no machine there, and
finds out by its own record of what it told the pool. Beginning an operation empties
that record, so the numbers leave only if the site was recorded again before the last
slot on it goes.
-/
namespace GwzCore.SetupRetry.Governor
open List FiniteMap Book

variable {governor : Governor} {operation : Operation} {site place : Site} {now : ℕ}

/-- The pool has nothing for the site, and the governor knows of nothing. -/
def Clear (governor : Governor) (site : Site) : Prop :=
  governor.book.applied[site]? = none ∧ governor.numbers site = {}

/-- Every site without a slot is clear. -/
def Withdrawn (governor : Governor) : Prop :=
  ∀ site, governor.book.touched site = false → governor.Clear site

lemma clear_onBook {f : Book → Book} (hf : (f governor.book).applied = governor.book.applied) :
    (governor.onBook f).Clear site ↔ governor.Clear site := by
  unfold Clear
  rw [show (governor.onBook f).book.applied = governor.book.applied from hf]
  rfl

lemma withdrawn_onBook {f : Book → Book} (hf : (f governor.book).applied = governor.book.applied)
    (htouched : ∀ site, governor.book.touched site = true → (f governor.book).touched site = true)
    (h : governor.Withdrawn) : (governor.onBook f).Withdrawn := by
  intro site huntouched
  rw [clear_onBook hf]
  apply h
  by_contra hbefore
  have hafter := htouched site (by simpa using hbefore)
  have : (f governor.book).touched site = false := huntouched
  simp [hafter] at this

/-- Reconciling one site leaves the others' numbers. -/
lemma reconcile_of_ne (hne : site ≠ place) :
    (governor.reconcile site).book.applied[place]? = governor.book.applied[place]? ∧
      (governor.reconcile site).numbers place = governor.numbers place := by
  have htell : ∀ wanted,
      (governor.tellPool site wanted).book.applied[place]? = governor.book.applied[place]? ∧
        (governor.tellPool site wanted).numbers place = governor.numbers place := by
    intro wanted
    simp [tellPool, numbers, get_insert_of_ne, hne]
  unfold reconcile
  split
  · split
    · exact ⟨rfl, rfl⟩
    · exact htell _
  · exact htell _
  · simp [clearPool, numbers, get_insert_of_ne, get_erase_of_ne, hne]
  · exact ⟨rfl, rfl⟩

lemma clear_reconcile_of_ne (hne : site ≠ place) :
    (governor.reconcile site).Clear place ↔ governor.Clear place := by
  unfold Clear
  rw [(reconcile_of_ne hne).1, (reconcile_of_ne hne).2]

/-- A site without a slot is clear once it is reconciled, if it was recorded or its
numbers had left already. -/
lemma clear_reconcile (huntouched : governor.book.touched site = false)
    (h : governor.book.applied[site]? = none → governor.numbers site = {}) :
    (governor.reconcile site).Clear site := by
  have hwanted := wanted_eq_none.mpr huntouched
  unfold reconcile
  rw [hwanted]
  cases happlied : governor.book.applied[site]? with
  | none => exact ⟨happlied, h happlied⟩
  | some known => simp [Clear, clearPool, numbers]

lemma touched_reconcile (place : Site) :
    (governor.reconcile site).book.touched place = governor.book.touched place :=
  touched_of_scopes (governor.reconcile_scopes site) place

lemma withdrawn_reconcile (site : Site) (h : governor.Withdrawn) :
    (governor.reconcile site).Withdrawn := by
  intro place huntouched
  rw [touched_reconcile] at huntouched
  by_cases hplace : site = place
  · subst hplace
    exact clear_reconcile huntouched fun _ => (h site huntouched).2
  · exact (clear_reconcile_of_ne hplace).mpr (h place huntouched)

lemma withdrawnRule (now : ℕ) (site : Site) : Rule now site Withdrawn where
  slot operation h := withdrawn_onBook applied_slot (fun _ => touched_slot) h
  update operation f hf h := by
    refine withdrawn_onBook applied_update (fun place htouched => ?_) h
    rwa [touched_update fun slot => (hf slot).1]
  note operation notes h := by
    refine withdrawn_onBook (applied_note notes) (fun place htouched => ?_) h
    rwa [touched_note]
  setSite state h := withdrawn_onBook rfl (fun _ htouched => htouched) h
  reconcile h := withdrawn_reconcile site h

/-! ## Operations end -/

/-- The slots an ended operation still has to leave: the sites on which it was the
last are recorded, or their numbers have left. -/
def Pending {C : ℕ} (governor : Governor) (slots : List (Slot C)) : Prop :=
  ∀ site, governor.book.touched site = false →
    if site ∈ slots.map (·.site) then
      governor.book.applied[site]? = none → governor.numbers site = {}
    else governor.Clear site

lemma touched_holdOver {C : ℕ} (slot : Slot C) (place : Site) :
    (governor.onBook fun book => book.holdOver now slot).book.touched place =
      governor.book.touched place :=
  touched_of_scopes (scopes_holdOver slot) place

lemma pending_leave {C : ℕ} {slot : Slot C} {slots : List (Slot C)}
    (h : governor.Pending (slot :: slots)) : (governor.leave now slot).Pending slots := by
  intro place huntouched
  unfold leave at huntouched ⊢
  rw [touched_reconcile, touched_holdOver] at huntouched
  have hplace := h place huntouched
  by_cases hsite : slot.site = place
  · -- the slot's own site is clear from here on
    subst hsite
    rw [if_pos (by simp)] at hplace
    have hclear : ((governor.onBook fun book => book.holdOver now slot).reconcile slot.site).Clear
        slot.site := by
      refine clear_reconcile (by rwa [touched_holdOver]) ?_
      intro hnone
      have happlied : (governor.onBook fun book => book.holdOver now slot).book.applied =
        governor.book.applied := applied_holdOver slot
      exact hplace (by rwa [← happlied])
    split
    · exact fun _ => hclear.2
    · exact hclear
  · have hmem : place ∈ (slot :: slots).map (·.site) ↔ place ∈ slots.map (·.site) := by
      simp [Ne.symm hsite]
    have hbook : (governor.onBook fun book => book.holdOver now slot).book.applied =
        governor.book.applied := applied_holdOver slot
    have hpool : (governor.onBook fun book => book.holdOver now slot).numbers place =
        governor.numbers place := rfl
    unfold Clear at hplace ⊢
    rw [(reconcile_of_ne hsite).1, (reconcile_of_ne hsite).2, hbook, hpool]
    simpa only [hmem] using hplace

lemma withdrawn_of_pending {C : ℕ} {slots : List (Slot C)} (h : governor.Pending slots) :
    (slots.foldl (fun governor slot => governor.leave now slot) governor).Withdrawn := by
  induction slots generalizing governor with
  | nil =>
    intro site huntouched
    simpa using h site huntouched
  | cons slot slots ih => exact ih (pending_leave h)

/-- Each site on which the operation has the last slot is recorded, or has no numbers
in the pool. -/
def leavesRecorded (governor : Governor) (operation : Operation) : Bool :=
  match governor.book.scopes[operation]? with
  | none => true
  | some scope =>
    scope.slots.all fun slot =>
      governor.book.applied.contains slot.site || governor.numbers slot.site = {} ||
        ({ governor.book with scopes := governor.book.scopes.erase operation } : Book).touched
          slot.site

lemma withdrawn_dropScope (hrecorded : governor.leavesRecorded operation = true)
    (h : governor.Withdrawn) : (governor.dropScope operation now).Withdrawn := by
  have hfiltered : (governor.onBook fun book =>
      { book with heldOver := book.heldOver.filter fun held => held.2.inForce now }).Withdrawn :=
    withdrawn_onBook rfl (fun _ htouched => htouched) h
  unfold dropScope
  simp only
  split
  · exact hfiltered
  · rename_i scope hget
    apply withdrawn_of_pending
    intro site huntouched
    have hget' : governor.book.scopes[operation]? = some scope := hget
    have hothers :
        ({ governor.book with scopes := governor.book.scopes.erase operation } : Book).touched
        site = false := huntouched
    split
    · rename_i hmem
      intro hnone
      obtain ⟨slot, hslot, hsite⟩ := mem_map.mp hmem
      simp only [leavesRecorded, hget', all_eq_true] at hrecorded
      have hslot' := hrecorded slot hslot
      rw [hsite, hothers, Std.ExtTreeMap.contains_eq_isSome_getElem?,
        show governor.book.applied[site]? = none from hnone] at hslot'
      have hnumbers : governor.numbers site = {} := by simpa using hslot'
      exact hnumbers
    · rename_i hmem
      refine h site ?_
      by_contra htouched
      obtain ⟨other, hold, hin⟩ := touched_iff.mp (by simpa using htouched)
      have hne : other ≠ operation := by
        rintro rfl
        rw [holds_of_get hget'] at hin
        obtain ⟨slot, hslot, heq⟩ := mem_map.mp hin
        cases heq
        exact hmem (mem_map.mpr ⟨slot, hslot, rfl⟩)
      have hstays :
          ({ governor.book with scopes := governor.book.scopes.erase operation } : Book).touched
          site = true := by
        refine touched_iff.mpr ⟨other, hold, ?_⟩
        rwa [holds_erase, if_neg hne]
      simp [hothers] at hstays

/-! ## Whole runs -/

/-- When an operation ends or is replaced, each site on which it has the last slot is
recorded, or has no numbers in the pool. -/
def recordedAtEnd (governor : Governor) (timed : TimedGovernorCall) : Bool :=
  match timed.call with
  | .beginOperation operation _ _ _ => governor.leavesRecorded operation
  | .endOperation operation => governor.leavesRecorded operation
  | _ => true

lemma withdrawn_beginOperation {ceiling : ℕ} {positive : 1 ≤ ceiling} {adaptive : Bool}
    (hrecorded : governor.leavesRecorded operation = true) (h : governor.Withdrawn) :
    (governor.beginOperation operation now ceiling positive adaptive).Withdrawn := by
  have hdropped : (governor.dropScope operation now).Withdrawn := withdrawn_dropScope hrecorded h
  intro site huntouched
  have hsame : (governor.dropScope operation now).book.touched site = false := by
    rw [← huntouched]
    exact touched_congr (fun other => by rw [holds_beginOperation]) site
  exact ⟨by simp [beginOperation, onBook], (hdropped site hsame).2⟩

lemma withdrawn_step {timed : TimedGovernorCall} (hrecorded : governor.recordedAtEnd timed = true)
    (h : governor.Withdrawn) : (governor.step timed).Withdrawn := by
  obtain ⟨call, now⟩ := timed
  cases call with
  | beginOperation => exact withdrawn_beginOperation hrecorded h
  | endOperation => exact withdrawn_dropScope hrecorded h
  | tick =>
    exact Steps.foldl_induction h
      (fun _ name hgovernor => (withdrawnRule now name.2).sync hgovernor name.1) _
  | drainAllNotes =>
    obtain ⟨hholds, happlied, -⟩ := governor.drainAllNotes_frame
    refine withdrawn_onBook happlied (fun site htouched => ?_) h
    have hsame : governor.drainAllNotes.2.book.touched site = governor.book.touched site :=
      touched_congr (fun operation => by rw [hholds operation]) site
    exact hsame.trans htouched
  | started | seen | endpoint => exact (withdrawnRule now _).siteStep h rfl

/-- In every run in which each site is recorded when the last slot on it goes, the
pool holds no limit, settle time or eviction stop for a site that no live operation
has a slot on. -/
theorem numbers_leave_with_last_slot (defaultCeiling : ℕ) (spread : ℕ → Spread)
    (calls : List TimedGovernorCall)
    (hrecorded : Steps.Meets (fun governor timed => governor.recordedAtEnd timed = true) step
      (Governor.new defaultCeiling spread) calls) (site : Site) :
    let governor := run defaultCeiling spread calls
    governor.book.touched site = false → governor.numbers site = {} := by
  intro governor huntouched
  have hwithdrawn : governor.Withdrawn :=
    Steps.run_induction_of_meets (P := Withdrawn) (fun site _ => by simp [Clear, new, numbers])
      (fun _ _ hcall h => withdrawn_step hcall h) hrecorded
  exact (hwithdrawn site huntouched).2

/-- One operation asks about a site and ends: its numbers have left the pool. -/
theorem numbers_leave_with_one_operation :
    let governor := run 3 (fun _ => ⟨fun _ => 1000, 0⟩)
      [⟨.beginOperation 1 3 (by decide) true, 0⟩, ⟨.endpoint 1 0 .admission, 0⟩,
        ⟨.endOperation 1, 1⟩]
    governor.book.touched 0 = false ∧ governor.numbers 0 = {} := by
  refine ⟨by decide +kernel, ?_⟩
  refine numbers_leave_with_last_slot 3 (fun _ => ⟨fun _ => 1000, 0⟩) _
    (Steps.Meets.of_meets (by decide +kernel)) 0 (by decide +kernel)

/-- An operation that begins empties the record; when the one that touched the site
then ends, its limit stays in the pool. -/
theorem begun_operation_leaves_numbers :
    let governor := run 3 (fun _ => ⟨fun _ => 1000, 0⟩)
      [⟨.beginOperation 1 3 (by decide) true, 0⟩, ⟨.endpoint 1 0 .admission, 0⟩,
        ⟨.beginOperation 2 3 (by decide) true, 1⟩, ⟨.endOperation 1, 2⟩]
    governor.book.touched 0 = false ∧ governor.numbers 0 = ⟨some 3, 0, false⟩ := by
  decide +kernel

end GwzCore.SetupRetry.Governor
