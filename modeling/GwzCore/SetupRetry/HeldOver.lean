import GwzCore.SetupRetry.Slots

/-!
# A hold outlasts the operation that heard it

The server's word is shared: a `Retry-After` is copied to every live machine on the
site, kept when its operation ends, and inherited by a machine made later. Several
holds may have been kept for one site; a machine made on a site without one inherits
the first that is in force, so the law needs that one to be the longest.
-/
namespace GwzCore.SetupRetry
open List FiniteMap Book

namespace Hold

/-- When the hold ends; a hold that is not active has ended. -/
def ends (hold : Hold) : ℕ :=
  match hold.active with
  | none => 0
  | some active => active.untilMs

lemma Lasts.of_ends {hold hold' : Hold} {time : ℕ} (h : hold.Lasts time) (hpos : 0 < time)
    (hle : hold.ends ≤ hold'.ends) : hold'.Lasts time := by
  obtain ⟨active, hactive, htime⟩ := h
  have hends : hold.ends = active.untilMs := by simp [ends, hactive]
  cases hactive' : hold'.active with
  | none =>
    have : hold'.ends = 0 := by simp [ends, hactive']
    omega
  | some active' =>
    have : hold'.ends = active'.untilMs := by simp [ends, hactive']
    exact ⟨active', hactive', by omega⟩

end Hold

namespace Book

variable {book : Book} {operation : Operation} {site : Site} {now time : ℕ}

/-- The first hold left on the site that is in force ends last of those left there. -/
def longestFirst (book : Book) (site : Site) (now : ℕ) : Bool :=
  match book.heldOver.find? (isLeft site now) with
  | none => true
  | some first => book.heldOver.all fun held => held.1 ≠ site || held.2.ends ≤ first.2.ends

/-- Every machine on the site is held until `time`, or, when there is none, a hold
left for the next is. -/
structure Held (book : Book) (site : Site) (time : ℕ) : Prop where
  every : ∀ operation hold, (site, hold) ∈ book.holds operation → hold.Lasts time
  left : book.touched site = false → ∃ hold, (site, hold) ∈ book.heldOver ∧ hold.Lasts time

lemma Held.of_frame {book' : Book} (h : book.Held site time)
    (hholds : ∀ operation, book'.holds operation = book.holds operation)
    (hheld : book'.heldOver = book.heldOver) : book'.Held site time := by
  have htouched : book'.touched site = book.touched site :=
    touched_congr (fun operation => by rw [hholds operation]) site
  refine ⟨?_, ?_⟩
  · intro operation hold hmem
    exact h.every operation hold (by rwa [hholds operation] at hmem)
  · intro huntouched
    rw [hheld]
    exact h.left (htouched ▸ huntouched)

/-- What the first machine made on the site inherits is held until `time`. -/
def FirstLasts (book : Book) (site : Site) (now time : ℕ) : Prop :=
  ∃ hold, book.heldOver.find? (isLeft site now) = some (site, hold) ∧ hold.Lasts time

lemma Held.firstLasts (h : book.Held site time) (htime : now < time)
    (huntouched : book.touched site = false) (hfirst : book.longestFirst site now = true) :
    book.FirstLasts site now time := by
  obtain ⟨hold, hmem, hlasts⟩ := h.left huntouched
  have hleft : isLeft site now (site, hold) = true := by
    simp [isLeft, hlasts.inForce htime]
  cases hfind : book.heldOver.find? (isLeft site now) with
  | none =>
    have := find?_eq_none.mp hfind _ hmem
    exact absurd hleft this
  | some held =>
    obtain ⟨place, first⟩ := held
    have hplace : place = site := by
      have := find?_some hfind
      simp only [isLeft, Bool.and_eq_true, decide_eq_true_eq] at this
      exact this.1
    subst hplace
    simp only [longestFirst, hfind, all_eq_true] at hfirst
    have hle : hold.ends ≤ first.ends := by simpa using hfirst _ hmem
    exact ⟨first, hfind, hlasts.of_ends (by omega) hle⟩

/-- The hold of a live machine on the site, if one is in force. -/
lemma mem_holds_of_liveHold {hold : Hold} (h : book.liveHold site now = some hold) :
    ∃ operation, (site, hold) ∈ book.holds operation := by
  obtain ⟨entry, hentry, hslots⟩ := exists_of_findSome?_eq_some h
  obtain ⟨slot, hslot, hsome⟩ := exists_of_findSome?_eq_some hslots
  split at hsome
  · rename_i hsite
    unfold Limit.holdInForce at hsome
    split at hsome
    · cases hsome
      subst hsite
      exact ⟨entry.1, mem_holds_of_slot (mem_toList.mp hentry) hslot⟩
    · cases hsome
  · cases hsome

/-- No hold in force is found on a site only when no machine there has one. -/
lemma not_inForce_of_liveHold {hold : Hold} (h : book.liveHold site now = none)
    (hmem : (site, hold) ∈ book.holds operation) : hold.inForce now = false := by
  unfold holds at hmem
  split at hmem
  · cases hmem
  · rename_i scope hget
    obtain ⟨slot, hslot, heq⟩ := mem_map.mp hmem
    cases heq
    have hscope := findSome?_eq_none_iff.mp h (operation, scope) (mem_toList.mpr hget)
    have hnone := findSome?_eq_none_iff.mp hscope slot hslot
    simpa [Limit.holdInForce] using hnone

/-- A machine made on a held site inherits a hold that lasts. -/
lemma lasts_inherited (h : book.Held site time) (htime : now < time)
    (hfirst : book.touched site = false → book.FirstLasts site now time) :
    (book.inherited site now).Lasts time := by
  unfold inherited
  rw [takeFirst_fst]
  cases hlive : book.liveHold site now with
  | some hold =>
    obtain ⟨operation, hmem⟩ := mem_holds_of_liveHold hlive
    exact h.every operation hold hmem
  | none =>
    have huntouched : book.touched site = false := by
      by_contra htouched
      obtain ⟨operation, hold, hmem⟩ := touched_iff.mp (by simpa using htouched)
      have hforce := (h.every operation hold hmem).inForce htime
      rw [not_inForce_of_liveHold hlive hmem] at hforce
      cases hforce
    obtain ⟨hold, hfind, hlasts⟩ := hfirst huntouched
    rw [hfind]
    exact hlasts

end Book

namespace Governor

variable {governor : Governor} {operation other : Operation} {site place : Site} {now time : ℕ}

/-- A held site, in a call on `place`: on the site itself, what is inherited lasts. -/
structure Ready (place : Site) (now : ℕ) (site : Site) (time : ℕ) (governor : Governor) : Prop
    extends Book.Held governor.book site time where
  first : place = site → governor.book.touched site = false →
    governor.book.FirstLasts site now time

lemma ready_of_frame {governor' : Governor} (h : Ready place now site time governor)
    (hholds : ∀ operation, governor'.book.holds operation = governor.book.holds operation)
    (hheld : governor'.book.heldOver = governor.book.heldOver) :
    Ready place now site time governor' := by
  refine ⟨h.toHeld.of_frame hholds hheld, ?_⟩
  intro hplace huntouched
  have htouched : governor'.book.touched site = governor.book.touched site :=
    touched_congr (fun operation => by rw [hholds operation]) site
  unfold Book.FirstLasts
  rw [hheld]
  exact h.first hplace (htouched ▸ huntouched)

lemma ready_slot (htime : now < time) (operation : Operation)
    (h : Ready place now site time governor) :
    Ready place now site time (governor.onBook fun book => book.slot operation place now) := by
  obtain hsame | ⟨-, hheld, hholds⟩ := slot_cases governor.book operation place now
  · exact ready_of_frame h (fun _ => by simp [onBook, hsame]) (by simp [onBook, hsame])
  · have hnew : (place, governor.book.inherited place now) ∈
        (governor.book.slot operation place now).holds operation := by
      rw [hholds, if_pos rfl]
      simp
    have hold_sites : ∀ other hold,
      (site, hold) ∈ (governor.book.slot operation place now).holds other →
        (site, hold) ∈ governor.book.holds other ∨
          (place = site ∧ hold = governor.book.inherited place now) := by
      intro other hold hmem
      rw [hholds] at hmem
      split at hmem
      · rename_i heq
        obtain hbefore | hmade := mem_append.mp hmem
        · exact .inl (heq ▸ hbefore)
        · simp only [mem_singleton, Prod.mk.injEq] at hmade
          exact .inr ⟨hmade.1.symm, hmade.2⟩
      · exact .inl hmem
    refine ⟨⟨?_, ?_⟩, ?_⟩
    · intro other hold hmem
      obtain hbefore | ⟨rfl, rfl⟩ := hold_sites other hold hmem
      · exact h.every other hold hbefore
      · exact lasts_inherited h.toHeld htime (h.first rfl)
    · intro huntouched
      have hne : place ≠ site := by
        rintro rfl
        exact not_mem_holds_of_untouched huntouched operation _ hnew
      have hbefore : governor.book.touched site = false := by
        by_contra htouched
        have hafter : (governor.book.slot operation place now).touched site = true :=
          touched_slot (by simpa using htouched)
        rw [show (governor.book.slot operation place now).touched site = false from huntouched]
          at hafter
        cases hafter
      obtain ⟨hold, hmem, hlasts⟩ := h.left hbefore
      refine ⟨hold, ?_, hlasts⟩
      have hkept : (site, hold) ∈ (takeFirst (isLeft place now) governor.book.heldOver).2 :=
        mem_takeFirst hmem (by simp [isLeft, Ne.symm hne])
      exact hheld ▸ hkept
    · intro hplace huntouched
      subst hplace
      exact absurd hnew (not_mem_holds_of_untouched huntouched operation _)

lemma ready_update (htime : now < time) (operation : Operation)
    {f : ∀ {C : ℕ}, Slot C → Slot C} (hf : ∀ {C : ℕ} (slot : Slot C), slot.Moves now (f slot))
    (h : Ready place now site time governor) :
    Ready place now site time (governor.onBook fun book => book.update operation place f) := by
  have htouched :
      (governor.book.update operation place f).touched site = governor.book.touched site :=
    touched_update (fun slot => (hf slot).1) site
  have hheld : (governor.book.update operation place f).heldOver = governor.book.heldOver :=
    heldOver_update
  refine ⟨⟨?_, ?_⟩, ?_⟩
  · intro other hold hmem
    obtain ⟨before, hbefore, hkeeps⟩ := mem_holds_update hf hmem
    exact hkeeps time htime (h.every other before hbefore)
  · intro huntouched
    obtain ⟨hold, hmem, hlasts⟩ := h.left (htouched ▸ huntouched)
    exact ⟨hold, hheld ▸ hmem, hlasts⟩
  · intro hplace huntouched
    obtain ⟨hold, hfind, hlasts⟩ := h.first hplace (htouched ▸ huntouched)
    exact ⟨hold, hheld ▸ hfind, hlasts⟩

lemma readyRule (htime : now < time) : Rule now place (Ready place now site time) where
  slot operation h := ready_slot htime operation h
  update operation _ hf h := ready_update htime operation hf h
  note _ notes h :=
    ready_of_frame h (fun other => holds_note notes other) (heldOver_note notes)
  setSite _ h := ready_of_frame h (fun _ => rfl) rfl
  reconcile h := ready_of_frame h (fun other => holds_congr (reconcile_scopes _ _) other)
    (reconcile_heldOver _ _)

/-! ## Operations end -/

lemma leave_heldOver {C : ℕ} (slot : Slot C) :
    (governor.leave now slot).book.heldOver = (governor.book.holdOver now slot).heldOver :=
  reconcile_heldOver _ _

/-- The holds an operation leaves are kept, and so are those left before. -/
lemma heldOver_leave {C : ℕ} (now : ℕ) (slots : List (Slot C)) (governor : Governor) :
    let left := slots.foldl (fun governor slot => governor.leave now slot) governor
    (∀ held ∈ governor.book.heldOver, held ∈ left.book.heldOver) ∧
      ∀ slot ∈ slots, slot.limit.hold.inForce now = true →
        (slot.site, slot.limit.hold) ∈ left.book.heldOver := by
  induction slots generalizing governor with
  | nil => simp
  | cons slot slots ih =>
    obtain ⟨hkept, hleft⟩ := ih (governor.leave now slot)
    have hheld : (governor.leave now slot).book.heldOver =
      (governor.book.holdOver now slot).heldOver := leave_heldOver slot
    refine ⟨?_, ?_⟩
    · intro held hmem
      apply hkept
      rw [hheld]
      unfold holdOver
      split
      · exact mem_append_left _ hmem
      · exact hmem
    · intro next hnext hforce
      obtain rfl | hrest := mem_cons.mp hnext
      · apply hkept
        rw [hheld, holdOver, if_pos (show next.limit.holding now = true from hforce)]
        simp [Limit.takeHold]
      · exact hleft next hrest hforce

/-- Every hold in force stays, whether it was left before or is the operation's. -/
lemma heldOver_dropScope (governor : Governor) (operation : Operation) (now : ℕ)
    (held : Site × Hold) (hforce : held.2.inForce now = true)
    (hmem : held ∈ governor.book.heldOver ∨ held ∈ governor.book.holds operation) :
    held ∈ (governor.dropScope operation now).book.heldOver := by
  have hfiltered : held ∈ governor.book.heldOver →
      held ∈ governor.book.heldOver.filter fun held => held.2.inForce now :=
    fun hin => mem_filter.mpr ⟨hin, hforce⟩
  unfold dropScope
  simp only
  split
  · rename_i hnone
    obtain hin | hown := hmem
    · exact hfiltered hin
    · have hempty : governor.book.holds operation = [] := by
        unfold holds
        rw [show governor.book.scopes[operation]? = none from hnone]
      simp [hempty] at hown
  · rename_i scope hget
    obtain ⟨hkept, hleft⟩ := heldOver_leave now scope.slots ((governor.onBook fun book =>
      { book with
        heldOver := book.heldOver.filter fun held => held.2.inForce now }).onBook fun book =>
      { book with
        scopes := book.scopes.erase operation
        endedNotes := keepLast notesKept (book.endedNotes ++ leftNotes scope) })
    obtain hin | hown := hmem
    · exact hkept held (hfiltered hin)
    · rw [holds_of_get (show governor.book.scopes[operation]? = some scope from hget)] at hown
      obtain ⟨slot, hslot, rfl⟩ := mem_map.mp hown
      exact hleft slot hslot hforce

section

variable (htime : now < time) (h : governor.book.Held site time)
include htime h

lemma held_dropScope : (governor.dropScope operation now).book.Held site time := by
  refine ⟨?_, ?_⟩
  · intro other hold hmem
    rw [holds_dropScope] at hmem
    split at hmem
    · cases hmem
    · exact h.every other hold hmem
  · intro huntouched
    by_cases hown : ∃ hold, (site, hold) ∈ governor.book.holds operation
    · obtain ⟨hold, hmem⟩ := hown
      have hlasts := h.every operation hold hmem
      exact ⟨hold, heldOver_dropScope governor operation now (site, hold) (hlasts.inForce htime)
        (.inr hmem), hlasts⟩
    · have hbefore : governor.book.touched site = false := by
        by_contra htouched
        obtain ⟨other, hold, hmem⟩ := touched_iff.mp (by simpa using htouched)
        have hne : other ≠ operation := by
          rintro rfl
          exact hown ⟨hold, hmem⟩
        refine not_mem_holds_of_untouched huntouched other hold ?_
        rwa [holds_dropScope, if_neg hne]
      obtain ⟨hold, hmem, hlasts⟩ := h.left hbefore
      exact ⟨hold, heldOver_dropScope governor operation now (site, hold) (hlasts.inForce htime)
        (.inl hmem), hlasts⟩

lemma held_beginOperation {ceiling : ℕ} {positive : 1 ≤ ceiling} {adaptive : Bool} :
    (governor.beginOperation operation now ceiling positive adaptive).book.Held site time := by
  have hdropped : (governor.dropScope operation now).book.Held site time := held_dropScope htime h
  refine ⟨?_, ?_⟩
  · intro other hold hmem
    rw [holds_beginOperation] at hmem
    exact hdropped.every other hold hmem
  · intro huntouched
    have hsame : (governor.dropScope operation now).book.touched site = false := by
      rw [← huntouched]
      exact touched_congr (fun other => by rw [holds_beginOperation]) site
    exact hdropped.left hsame

/-! ## A call keeps the hold -/

/-- A slot that is synced is on a touched site, so nothing is inherited there first. -/
lemma held_sync : (governor.sync operation place now).book.Held site time := by
  cases hslot : governor.book.onSlot operation place fun slot => (slot.synced now).1 with
  | none =>
    unfold sync
    rwa [hslot]
  | some notes =>
    have hready : Ready place now site time governor := by
      refine ⟨h, ?_⟩
      rintro rfl huntouched
      obtain ⟨hold, hmem⟩ := mem_holds_of_onSlot hslot
      exact absurd hmem (not_mem_holds_of_untouched huntouched operation hold)
    exact ((readyRule htime).sync hready operation).toHeld

end

end Governor

/-- A setup's refusal, whose machine sets no hold, names no wait. -/
def GovernorCall.namesNoSetupWait : GovernorCall → Bool
  | .endpoint _ _ (.refused _ .setupDrop (some _) _) => false
  | _ => true

namespace Governor

variable {governor : Governor} {operation other : Operation} {site place : Site} {now time : ℕ}

/-- On a site that no live operation has touched, the first hold left is the longest;
and no setup's refusal names a wait. -/
def holdsOrdered (governor : Governor) (timed : TimedGovernorCall) : Bool :=
  timed.call.namesNoSetupWait &&
    match timed.call.site with
    | none => true
    | some site => governor.book.touched site || governor.book.longestFirst site timed.now

lemma ready_of_held (htime : now < time) (h : governor.book.Held site time)
    (hordered : (governor.book.touched place || governor.book.longestFirst place now) = true) :
    Ready place now site time governor := by
  refine ⟨h, ?_⟩
  rintro rfl huntouched
  exact h.firstLasts htime huntouched (by simpa [huntouched] using hordered)

lemma held_step {timed : TimedGovernorCall} (htime : timed.now < time)
    (hordered : governor.holdsOrdered timed = true) (h : governor.book.Held site time) :
    (governor.step timed).book.Held site time := by
  obtain ⟨call, now⟩ := timed
  simp only [holdsOrdered, Bool.and_eq_true] at hordered
  cases call with
  | beginOperation => exact held_beginOperation htime h
  | endOperation => exact held_dropScope htime h
  | tick =>
    exact Steps.foldl_induction (P := fun governor : Governor => governor.book.Held site time) h
      (fun _ name hgovernor => held_sync htime hgovernor) _
  | drainAllNotes =>
    obtain ⟨hholds, -, hheld⟩ := governor.drainAllNotes_frame
    exact h.of_frame hholds hheld
  | started | seen | endpoint =>
    exact ((readyRule htime).siteStep (ready_of_held htime h hordered.2) rfl).toHeld

end Governor

end GwzCore.SetupRetry
