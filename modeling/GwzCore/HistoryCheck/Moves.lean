import GwzCore.HistoryCheck.Verifier
import GwzCore.Lib.Stopping

/-!
# What each move of the walk does

Reading an object, following an edge and closing a frame, each either done, with all of its
effect, or stopped, with the reason. The bookkeeping fits its limit for as long as the check
goes on.
-/
namespace GwzCore.HistoryCheck
open Stopping List FiniteMap Function Triple

variable {below stack : List Frame} {top : Frame} {oid : ObjectId} {node : NodeState}
  {eligible : List ProtectedRoot}

/-- The account is within its limit and was so all along. -/
structure Budget.Fits (budget : Budget) : Prop where
  used_le_peak : budget.used ≤ budget.peak
  peak_le_limit : budget.peak ≤ budget.limit

/-- The reasons for which a walk stops in the state `v`. `asked` holds of the objects it may
ask for. -/
inductive Reason (check : Check) (limit : ℕ) (asked : ObjectId → Prop) (v : Verifier) :
    UnknownReason → Prop where
  | cancelled (number : ℕ) (h : check.cancellation number = true) :
      Reason check limit asked v cancelled
  | overdrawn (hlimit : v.budget.limit = limit) (hpeak : limit < v.budget.peak) :
      Reason check limit asked v v.budget.overdrawn
  | unreadable (oid : ObjectId) (error : ReadError) (hasked : asked oid)
      (hread : check.reader.readObject oid check.limits.reads = .error error)
      (hmissing : ∀ absent, error ≠ .missing absent) : Reason check limit asked v (readReason error)

/-- The objects an object of the store points at. -/
def Check.edges (check : Check) (oid : ObjectId) : Option (List ObjectId) :=
  match check.reader.readObject oid check.limits.reads with
  | .ok record => some record.edges
  | .error _ => none

/-- An object lies below another in the store. -/
abbrev Check.Below (check : Check) : ObjectId → ObjectId → Prop := Search.Below check.edges

/-- The reader failed on an object otherwise than by not having it. -/
def Unreadable (check : Check) (oid : ObjectId) : Prop :=
  ∃ error, check.reader.readObject oid check.limits.reads = .error error ∧
    ∀ absent, error ≠ .missing absent

/-- The record of a check that goes on: no poll was answered, every decided object was asked
for, and the account has the limit it began with. -/
structure Logged (check : Check) (v : Verifier) : Prop where
  polls : ∀ number < v.polls, check.cancellation number = false
  decided : ∀ oid : ObjectId, v.state[oid]? ≠ none → oid ∈ v.reads
  limit : v.budget.limit = check.limits.maxBookkeepingBytes

/-- The record of a check that stopped shows why. -/
def Halted (check : Check) (v : Verifier) : Prop :=
  (∃ number < v.polls, check.cancellation number = true) ∨
    check.limits.maxBookkeepingBytes < v.budget.peak ∨ ∃ oid ∈ v.reads, Unreadable check oid

/-- A computation changed at most the account, and kept it within its limit. -/
structure Verifier.Charged (v v' : Verifier) : Prop where
  rest : v' = { v with budget := v'.budget }
  limit : v'.budget.limit = v.budget.limit
  fits : v.budget.Fits → v'.budget.Fits

variable {check : Check} {v v' : Verifier}

/-- An object is decided that was asked for. -/
lemma Logged.insert (h : Logged check v) (hpolls : v'.polls = v.polls)
    (hreads : v.reads ⊆ v'.reads) (hmem : oid ∈ v'.reads)
    (hstate : v'.state = v.state.insert oid node) (hlimit : v'.budget.limit = v.budget.limit) :
    Logged check v' where
  polls := by
    rw [hpolls]
    exact h.polls
  decided := by
    intro other hother
    by_cases hsame : oid = other
    · exact hsame ▸ hmem
    · rw [hstate, get_insert_of_ne _ _ hsame] at hother
      exact hreads (h.decided other hother)
  limit := hlimit.trans h.limit

namespace Verifier

/-- An object is asked for only below an eligible root. -/
def Asked (check : Check) (eligible : List ProtectedRoot) (oid : ObjectId) : Prop :=
  ∃ root ∈ eligible, check.Below root.oid oid

/-- A check stopped from `v` in `v'`: for a reason, and without a read repeated. -/
structure Stopped (check : Check) (eligible : List ProtectedRoot) (limit : ℕ) (v : Verifier)
    (e : UnknownReason) : Prop where
  reason : Reason check limit (Asked check eligible) v e
  reads : v.reads.Nodup

/-- From `v` the computation goes on with `Q`, or stops; the record is kept and shows why. -/
abbrev Goes {α : Type} (check : Check) (eligible : List ProtectedRoot) (v : Verifier)
    (x : Checking α) (Q : α → Verifier → Prop) : Prop :=
  Triple (fun s => s = v) x (fun a v' => Logged check v' ∧ Q a v') fun e v' =>
    Stopped check eligible check.limits.maxBookkeepingBytes v' e ∧ Halted check v'

variable {bytes : ℕ}

/-- The origins after an object was opened. -/
def originAfter (v : Verifier) (oid : ObjectId) : FiniteMap ObjectId ℕ :=
  if v.targets.contains oid && !v.origin.contains oid then v.origin.insert oid v.currentRoot
  else v.origin

/-- An object was read and its frame made. -/
structure Entered (check : Check) (oid : ObjectId) (v : Verifier) (frame : Frame) (v' : Verifier) :
    Prop where
  read : ∃ record, check.reader.readObject oid check.limits.reads = .ok record ∧
    frame.edges = record.edges
  node : frame.oid = oid
  fresh : frame.next = 0 ∧ frame.complete = true ∧ frame.missing = none
  state : v'.state = v.state.insert oid .inProgress
  firstMissing : v'.firstMissing = v.firstMissing
  targets : v'.targets = v.targets
  origin : v'.origin = v.originAfter oid
  currentRoot : v'.currentRoot = v.currentRoot
  reads : v'.reads = oid :: v.reads
  limit : v'.budget.limit = v.budget.limit
  fits : v.budget.Fits → v'.budget.Fits

/-- An object was found missing. -/
structure Missed (check : Check) (oid : ObjectId) (v v' : Verifier) : Prop where
  read : ∃ absent, check.reader.readObject oid check.limits.reads = .error (.missing absent)
  state : v'.state = v.state.insert oid .incomplete
  firstMissing : v'.firstMissing = v.firstMissing.insert oid oid
  targets : v'.targets = v.targets
  origin : v'.origin = v.origin
  currentRoot : v'.currentRoot = v.currentRoot
  reads : v'.reads = oid :: v.reads
  limit : v'.budget.limit = v.budget.limit
  fits : v.budget.Fits → v'.budget.Fits

/-- A frame was closed as `node`: only the marks, the missing object it names and the account
changed. -/
structure Closed (top : Frame) (node : NodeState) (v v' : Verifier) : Prop where
  state : v'.state = v.state.insert top.oid node
  targets : v'.targets = v.targets
  origin : v'.origin = v.origin
  currentRoot : v'.currentRoot = v.currentRoot
  reads : v'.reads = v.reads
  limit : v'.budget.limit = v.budget.limit
  fits : v.budget.Fits → v'.budget.Fits

lemma release_fits {budget : Budget} (h : budget.Fits) : (budget.release bytes).Fits :=
  ⟨(Nat.sub_le _ _).trans h.used_le_peak, h.peak_le_limit⟩

section
variable (hlog : Logged check v) (hreads : v.reads.Nodup)
include hlog hreads

lemma charge_goes (bytes : ℕ) : Goes check eligible v (charge bytes) fun _ => Charged v := by
  refine step rfl (step rfl (ite (fun hover => throw ?_) fun hlimit => done ?_))
  · rintro _ rfl
    have hused : (v.budget.add bytes).used ≤ (v.budget.add bytes).peak := by simp [Budget.add]
    have hpeak := hover.trans_le hused
    rw [show (v.budget.add bytes).limit = _ from hlog.limit] at hpeak
    exact ⟨⟨.overdrawn hlog.limit hpeak, hreads⟩, .inr (.inl hpeak)⟩
  · refine ⟨⟨hlog.polls, hlog.decided, hlog.limit⟩, rfl, rfl, ?_⟩
    rintro ⟨hused, hpeak⟩
    simp only [Budget.add] at hlimit ⊢
    constructor <;> simp only <;> omega

lemma poll_goes :
    Goes check eligible v (poll check) fun _ v' => v' = { v with polls := v.polls + 1 } := by
  refine step rfl (step rfl (ite (fun hcancelled => throw ?_) fun hgoes => done ?_))
  · rintro _ rfl
    exact ⟨⟨.cancelled _ hcancelled, hreads⟩, .inl ⟨v.polls, Nat.lt_succ_self _, hcancelled⟩⟩
  · refine ⟨⟨?_, hlog.decided, hlog.limit⟩, rfl⟩
    intro number hnumber
    rcases Nat.lt_succ_iff_lt_or_eq.mp hnumber with hbefore | rfl
    · exact hlog.polls number hbefore
    · simpa using hgoes

lemma recordOrigin_goes (oid : ObjectId) :
    Goes check eligible v (recordOrigin check oid) fun _ v' =>
      v' = { v with budget := v'.budget, origin := v.originAfter oid } ∧
        v'.budget.limit = v.budget.limit ∧ (v.budget.Fits → v'.budget.Fits) := by
  unfold originAfter
  refine step rfl (ite (fun hnew => ?_) fun hold => done ?_)
  · refine bind_state (charge_goes hlog hreads _) ?_
    rintro _ charged ⟨hlog, hrest, hlimit, hfits⟩
    refine modify ?_
    rintro _ rfl
    rw [if_pos hnew]
    refine ⟨⟨hlog.polls, hlog.decided, hlog.limit⟩, ?_, hlimit, hfits⟩
    rw [hrest]
  · rw [if_neg hold]
    exact ⟨hlog, rfl, rfl, id⟩

end

/-- An object that was not asked for before is opened. -/
lemma open_goes (hlog : Logged check v) (hreads : (oid :: v.reads).Nodup)
    (hasked : Asked check eligible oid) :
    Goes check eligible v (Verifier.open check oid) fun opened v' =>
      (∃ frame, opened = some frame ∧ Entered check oid v frame v') ∨
        (opened = none ∧ Missed check oid v v') := by
  refine bind_state (poll_goes hlog (nodup_cons.mp hreads).2) ?_
  rintro _ _ ⟨hlog, rfl⟩
  refine bind_state (charge_goes hlog (nodup_cons.mp hreads).2 _) ?_
  rintro _ charged ⟨hlog, hcharged, hlimit, hfits⟩
  have hnodup : (oid :: charged.reads).Nodup := by
    rw [hcharged]
    exact hreads
  refine step rfl ?_
  cases hread : check.reader.readObject oid check.limits.reads with
  | ok record =>
    refine step rfl (step rfl ?_)
    refine bind_state (recordOrigin_goes ?_ ?_ oid) ?_
    · exact hlog.insert rfl (subset_cons_self ..) mem_cons_self rfl rfl
    · exact hnodup
    rintro _ recorded ⟨hlog, hrecorded, hlimit', hfits'⟩
    refine bind_state (charge_goes hlog (by rw [hrecorded]; exact hnodup) _) ?_
    rintro _ framed ⟨hlog, hframed, hlimit'', hfits''⟩
    rw [hrecorded, hcharged] at hframed
    exact done ⟨hlog, .inl ⟨_, rfl, {
      read := ⟨record, hread, rfl⟩
      node := rfl
      fresh := ⟨rfl, rfl, rfl⟩
      state := by rw [hframed]
      firstMissing := by rw [hframed]
      targets := by rw [hframed]
      origin := by rw [hframed]; rfl
      currentRoot := by rw [hframed]
      reads := by rw [hframed]
      limit := hlimit''.trans (hlimit'.trans hlimit)
      fits := fun hfit => hfits'' (hfits' (hfits hfit)) }⟩⟩
  | error error =>
    cases error with
    | missing absent =>
      refine step rfl (bind_state (charge_goes ?_ ?_ _) ?_)
      · exact hlog.insert rfl (subset_cons_self ..) mem_cons_self rfl rfl
      · exact hnodup
      rintro _ missed ⟨hlog, hmissed, hlimit', hfits'⟩
      rw [hcharged] at hmissed
      refine step rfl (done ⟨⟨hlog.polls, hlog.decided, hlog.limit⟩, .inr ⟨rfl, {
        read := ⟨absent, hread⟩
        state := by rw [hmissed]
        firstMissing := by rw [hmissed]
        targets := by rw [hmissed]
        origin := by rw [hmissed]
        currentRoot := by rw [hmissed]
        reads := by rw [hmissed]
        limit := hlimit'.trans hlimit
        fits := fun hfit => hfits' (hfits hfit) }⟩⟩)
    | limitExceeded | corrupt | readFailed | unimplemented =>
      refine throw ?_
      rintro _ rfl
      exact ⟨⟨.unreadable oid _ hasked hread (by simp), hnodup⟩,
        .inr (.inr ⟨oid, mem_cons_self, _, hread, by simp⟩)⟩

section
variable (hlog : Logged check v) (hentered : v.state[top.oid]? = some .inProgress)
include hlog hentered

lemma finish_complete (hcomplete : top.complete = true) :
    Goes check eligible v (finish check top below) fun stack v' =>
      stack = below ∧ Closed top .complete v v' ∧ v'.firstMissing = v.firstMissing := by
  refine step rfl
    (ite (fun _ => step rfl (done ⟨?_, rfl, ?_, rfl⟩)) fun hnot => absurd hcomplete hnot)
  · exact hlog.insert rfl (Subset.refl _) (hlog.decided top.oid (by simp [hentered])) rfl rfl
  · exact ⟨rfl, rfl, rfl, rfl, rfl, rfl, release_fits⟩

lemma finish_incomplete {missing : ObjectId} (hreads : v.reads.Nodup)
    (hcomplete : top.complete = false) (hmissing : top.missing = some missing) :
    Goes check eligible v (finish check top below) fun stack v' =>
      stack = below.modifyHead (fun parent => parent.taint top.missing) ∧
        Closed top .incomplete v v' ∧ v'.firstMissing = v.firstMissing.insert top.oid missing := by
  unfold finish
  rw [hmissing]
  refine step rfl (ite (fun h => absurd h (by simp [hcomplete])) fun _ => step rfl ?_)
  refine bind_state (charge_goes ?_ ?_ _) ?_
  · exact hlog.insert rfl (Subset.refl _) (hlog.decided top.oid (by simp [hentered])) rfl rfl
  · exact hreads
  rintro _ charged ⟨hlog, hcharged, hlimit, hfits⟩
  refine step rfl (done ⟨⟨hlog.polls, hlog.decided, hlog.limit⟩, rfl, ⟨?_, ?_, ?_, ?_, ?_, hlimit,
    fun hfit => hfits (release_fits hfit)⟩, ?_⟩)
  all_goals rw [hcharged]

end

/-- The edge followed: what was known of the object, or what opening it gave. -/
inductive Followed (check : Check) (top : Frame) (below : List Frame) (child : ObjectId)
    (v : Verifier) : List Frame → Verifier → Prop where
  | known (node : NodeState) (hnode : node = .complete ∨ node = .inProgress)
      (hstate : v.state[child]? = some node) :
      Followed check top below child v ({ top with next := top.next + 1 } :: below) v
  | tainted (hstate : v.state[child]? = some .incomplete) :
      Followed check top below child v
        ({ top with next := top.next + 1 }.taint
          (v.firstMissing[child]?.or (some child)) :: below) v
  | entered (frame : Frame) (v' : Verifier) (hstate : v.state[child]? = none)
      (hentered : Entered check child v frame v') :
      Followed check top below child v (frame :: { top with next := top.next + 1 } :: below) v'
  | missed (v' : Verifier) (hstate : v.state[child]? = none) (hmissed : Missed check child v v') :
      Followed check top below child v
        ({ top with next := top.next + 1 }.taint (some child) :: below) v'

lemma follow_goes {child : ObjectId} (hlog : Logged check v) (hreads : v.reads.Nodup)
    (hnew : v.state[child]? = none → child ∉ v.reads) (hasked : Asked check eligible child) :
    Goes check eligible v (follow check top below child) (Followed check top below child v) := by
  refine step rfl ?_
  cases hstate : v.state[child]? with
  | some node =>
    cases node with
    | complete => exact done ⟨hlog, .known .complete (.inl rfl) hstate⟩
    | inProgress => exact done ⟨hlog, .known .inProgress (.inr rfl) hstate⟩
    | incomplete => exact done ⟨hlog, .tainted hstate⟩
  | none =>
    refine bind_state (open_goes hlog (nodup_cons.mpr ⟨hnew hstate, hreads⟩) hasked) ?_
    rintro _ _ ⟨hlog, ⟨frame, rfl, hentered⟩ | ⟨rfl, hmissed⟩⟩
    · exact done ⟨hlog, .entered frame _ hstate hentered⟩
    · exact done ⟨hlog, .missed _ hstate hmissed⟩

end Verifier
end GwzCore.HistoryCheck
