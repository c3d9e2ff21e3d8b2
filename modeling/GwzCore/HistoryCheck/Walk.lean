import GwzCore.HistoryCheck.Moves

/-!
# The walk is a depth-first search

What the verifier knows of objects and its stack of frames are the marks and the stack of a
depth-first search of the store, and a round of its loop is a round of that search. Beside
the search, the verifier keeps a list of reads without repetition and, for each protected
object it read, an eligible root above it.
-/
namespace GwzCore.HistoryCheck
open Stopping List FiniteMap Function Triple Search NodeState Verifier

variable {eligible : List ProtectedRoot} {node : NodeState}

def NodeState.mark : NodeState → Search.Mark
  | .inProgress => .entered
  | .complete => .complete
  | .incomplete => .incomplete

def Frame.view (frame : Frame) : Search.Frame ObjectId :=
  ⟨frame.oid, frame.edges.drop frame.next, frame.complete, frame.missing⟩

/-- The verifier and its stack as the state of a search. -/
def Verifier.view (v : Verifier) (stack : List Frame) : Search.State ObjectId :=
  ⟨fun oid => v.state[oid]?.map NodeState.mark, fun oid => v.firstMissing[oid]?,
    stack.map Frame.view⟩

lemma mark_eq {state : Option NodeState} :
    state.map mark = some node.mark ↔ state = some node := by
  cases state with
  | none => simp
  | some other => cases other <;> cases node <;> simp [mark]

lemma get_insert_eq_update {β γ : Type} (m : FiniteMap ObjectId β) (oid : ObjectId) (b : β)
    (f : Option β → γ) :
    (fun a => f (m.insert oid b)[a]?) = update (fun a => f m[a]?) oid (f (some b)) := by
  funext a
  by_cases ha : a = oid
  · subst ha
    simp
  · rw [update_of_ne ha, get_insert_of_ne _ _ (Ne.symm ha)]

lemma mark_insert (state : FiniteMap ObjectId NodeState) (oid : ObjectId) (node : NodeState) :
    (fun a => (state.insert oid node)[a]?.map mark) =
      update (fun a => state[a]?.map mark) oid (some node.mark) :=
  get_insert_eq_update state oid node (Option.map mark)

namespace Verifier

variable {check : Check} {v v' : Verifier} {oid : ObjectId} {frame : Frame} {stack : List Frame}

lemma Entered.edges_eq (h : Entered check oid v frame v') : check.edges oid = some frame.edges := by
  obtain ⟨record, hread, hedges⟩ := h.read
  simp [Check.edges, hread, hedges]

lemma Missed.edges_eq (h : Missed check oid v v') : check.edges oid = none := by
  obtain ⟨absent, hread⟩ := h.read
  simp [Check.edges, hread]

/-- Opening an object of the store enters its node. -/
lemma Entered.view_eq (h : Entered check oid v frame v') :
    v'.view (frame :: stack) = (v.view stack).visit check.edges oid := by
  obtain ⟨hnext, hcomplete, hmissing⟩ := h.fresh
  simp only [view, Search.State.visit, h.edges_eq, h.state, h.firstMissing, map_cons,
    Frame.view, h.node, hnext, hcomplete, hmissing, drop_zero]
  rw [mark_insert]
  rfl

/-- Opening a missing object marks it. -/
lemma Missed.view_eq (h : Missed check oid v v') :
    v'.view stack = (v.view stack).visit check.edges oid := by
  simp only [view, Search.State.visit, h.edges_eq, h.state, h.firstMissing]
  rw [mark_insert, get_insert_eq_update _ _ _ fun missing => missing]
  rfl

/-- The reader gave the object or found it missing. -/
def Answered (check : Check) (oid : ObjectId) : Prop :=
  (∃ record, check.reader.readObject oid check.limits.reads = .ok record) ∨
    ∃ absent, check.reader.readObject oid check.limits.reads = .error (.missing absent)

/-- What the verifier keeps beside the search. -/
structure Side (check : Check) (eligible : List ProtectedRoot) (v : Verifier) : Prop where
  reads : v.reads.Nodup
  answered : ∀ oid, v.state[oid]? ≠ none → Answered check oid
  decided : ∀ oid ∈ v.reads, v.state[oid]? ≠ none
  origin : ∀ oid index, v.origin[oid]? = some index →
    ∃ root, eligible[index]? = some root ∧ check.Below root.oid oid
  attributed : ∀ oid, v.targets.contains oid = true →
    v.state[oid]? = some .inProgress ∨ v.state[oid]? = some .complete →
      v.origin.contains oid = true
  fits : v.budget.Fits

lemma Side.decide (h : Side check eligible v) (hanswer : Answered check oid)
    (hstate : v'.state = v.state.insert oid node) :
    ∀ a, v'.state[a]? ≠ none → Answered check a := by
  intro a ha
  by_cases hao : oid = a
  · subst hao
    exact hanswer
  · rw [hstate, get_insert_of_ne _ _ hao] at ha
    exact h.answered a ha

/-- Asking for an undecided object and deciding it keeps the reads apart. -/
lemma Side.ask (h : Side check eligible v) (hnew : v.state[oid]? = none)
    (hstate : v'.state = v.state.insert oid node) (hreads : v'.reads = oid :: v.reads) :
    v'.reads.Nodup ∧ ∀ a ∈ v'.reads, v'.state[a]? ≠ none := by
  constructor
  · rw [hreads, nodup_cons]
    exact ⟨fun hmem => h.decided oid hmem hnew, h.reads⟩
  · intro a ha
    rw [hstate]
    by_cases hao : oid = a
    · subst hao
      simp
    · rw [get_insert_of_ne _ _ hao]
      rw [hreads] at ha
      exact h.decided a ((mem_cons.mp ha).resolve_left (Ne.symm hao))

lemma originAfter_get (v : Verifier) (oid : ObjectId) :
    ∀ a index, (v.originAfter oid)[a]? = some index →
      v.origin[a]? = some index ∨ (a = oid ∧ index = v.currentRoot) := by
  intro a index h
  unfold originAfter at h
  split at h
  · rcases get_insert_eq_some.mp h with ⟨hoid, hindex⟩ | ⟨_, hold⟩
    · exact .inr ⟨hoid.symm, hindex⟩
    · exact .inl hold
  · exact .inl h

lemma originAfter_contains (v : Verifier) (oid : ObjectId) :
    (∀ a, v.origin.contains a = true → (v.originAfter oid).contains a = true) ∧
      (v.targets.contains oid = true → (v.originAfter oid).contains oid = true) := by
  unfold originAfter
  cases htarget : v.targets.contains oid <;> cases horigin : v.origin.contains oid <;>
    simp_all

lemma Entered.side {root : ProtectedRoot} (h : Entered check oid v frame v')
    (hside : Side check eligible v) (hnew : v.state[oid]? = none)
    (hroot : eligible[v.currentRoot]? = some root) (hbelow : check.Below root.oid oid) :
    Side check eligible v' where
  reads := (hside.ask hnew h.state h.reads).1
  answered := hside.decide (.inl (h.read.imp fun _ hread => hread.1)) h.state
  decided := (hside.ask hnew h.state h.reads).2
  origin := by
    intro a index ha
    rw [h.origin] at ha
    rcases originAfter_get v oid a index ha with hold | ⟨rfl, rfl⟩
    · exact hside.origin a index hold
    · exact ⟨root, hroot, hbelow⟩
  attributed := by
    intro a htarget hstate
    rw [h.targets] at htarget
    rw [h.origin]
    obtain ⟨hkept, hadded⟩ := originAfter_contains v oid
    by_cases hao : oid = a
    · subst hao
      exact hadded htarget
    · rw [h.state, get_insert_of_ne _ _ hao] at hstate
      exact hkept a (hside.attributed a htarget hstate)
  fits := h.fits hside.fits

lemma Missed.side (h : Missed check oid v v') (hside : Side check eligible v)
    (hnew : v.state[oid]? = none) : Side check eligible v' where
  reads := (hside.ask hnew h.state h.reads).1
  answered := hside.decide (.inr h.read) h.state
  decided := (hside.ask hnew h.state h.reads).2
  origin := by
    rw [h.origin]
    exact hside.origin
  attributed := by
    intro a htarget hstate
    rw [h.targets] at htarget
    rw [h.origin]
    by_cases hao : oid = a
    · subst hao
      simp [h.state] at hstate
    · rw [h.state, get_insert_of_ne _ _ hao] at hstate
      exact hside.attributed a htarget hstate
  fits := h.fits hside.fits

/-- Closing a frame decides an object that was read before. -/
lemma Closed.side {top : Frame} (h : Closed top node v v') (hside : Side check eligible v)
    (hentered : v.state[top.oid]? = some .inProgress) : Side check eligible v' where
  reads := by
    rw [h.reads]
    exact hside.reads
  answered := hside.decide (hside.answered top.oid (by simp [hentered])) h.state
  decided := by
    intro a ha
    rw [h.reads] at ha
    rw [h.state]
    by_cases hao : top.oid = a
    · subst hao
      simp
    · rw [get_insert_of_ne _ _ hao]
      exact hside.decided a ha
  origin := by
    rw [h.origin]
    exact hside.origin
  attributed := by
    intro a htarget hstate
    rw [h.targets] at htarget
    rw [h.origin]
    by_cases hao : top.oid = a
    · subst hao
      exact hside.attributed _ htarget (.inl hentered)
    · rw [h.state, get_insert_of_ne _ _ hao] at hstate
      exact hside.attributed a htarget hstate
  fits := h.fits hside.fits

/-! ### A round -/

/-- What stays as it is throughout a walk. -/
structure Fixed (v v' : Verifier) : Prop where
  targets : v'.targets = v.targets
  currentRoot : v'.currentRoot = v.currentRoot
  limit : v'.budget.limit = v.budget.limit

lemma Fixed.refl (v : Verifier) : Fixed v v := ⟨rfl, rfl, rfl⟩

lemma Fixed.trans {v'' : Verifier} (h : Fixed v v') (h' : Fixed v' v'') : Fixed v v'' :=
  ⟨h'.targets.trans h.targets, h'.currentRoot.trans h.currentRoot, h'.limit.trans h.limit⟩

/-- The state of a walk from the root it is at. -/
structure Walking (check : Check) (eligible : List ProtectedRoot) (root : ProtectedRoot)
    (v : Verifier) (stack : List Frame) : Prop where
  side : Side check eligible v
  current : eligible[v.currentRoot]? = some root
  search : Search.Inv check.edges root.oid (v.view stack)

variable {root : ProtectedRoot} {top : Frame} {below : List Frame} {child : ObjectId}

lemma view_rest (hchild : top.edges[top.next]? = some child) :
    top.view.rest = child :: { top with next := top.next + 1 }.view.rest := by
  obtain ⟨hlt, hget⟩ := List.getElem?_eq_some_iff.mp hchild
  simp only [Frame.view]
  rw [List.drop_eq_getElem_cons hlt, hget]

/-- An edge followed is a round of the search. -/
lemma Followed.view_eq (hchild : top.edges[top.next]? = some child)
    (h : Followed check top below child v stack v') :
    v'.view stack = step check.edges (v.view (top :: below)) := by
  have hrest := view_rest hchild
  have hstack : (v.view (top :: below)).stack = top.view :: below.map Frame.view := rfl
  cases h with
  | known node hnode hstate =>
    rcases hnode with rfl | rfl
    · rw [step_of_complete hstack hrest (mark_eq.mpr hstate)]
      rfl
    · rw [step_of_entered hstack hrest (mark_eq.mpr hstate)]
      rfl
  | tainted hstate =>
    rw [step_of_incomplete hstack hrest (mark_eq.mpr hstate)]
    rfl
  | entered frame v' hstate hentered =>
    have hmark : (v.view (top :: below)).mark child = none := by simp [view, hstate]
    rw [step_of_present hstack hrest hmark hentered.edges_eq, hentered.view_eq]
    rfl
  | missed v' hstate hmissed =>
    have hmark : (v.view (top :: below)).mark child = none := by simp [view, hstate]
    rw [step_of_missing hstack hrest hmark hmissed.edges_eq, hmissed.view_eq]
    rfl

section

variable (h : Walking check eligible root v (top :: below))
include h

lemma Walking.below_child
    (hchild : top.edges[top.next]? = some child) : check.Below root.oid child := by
  have hedge := h.search.edge check.edges rfl (view_rest hchild)
  have htop := h.search.reached top.view (by simp [view])
  exact htop.tail hedge

lemma Followed.side (hchild : top.edges[top.next]? = some child)
    (hfollowed : Followed check top below child v stack v') :
    Side check eligible v' ∧ Fixed v v' := by
  cases hfollowed with
  | known | tainted => exact ⟨h.side, .refl v⟩
  | entered frame v' hstate hentered =>
    exact ⟨hentered.side h.side hstate h.current (h.below_child hchild),
      hentered.targets, hentered.currentRoot, hentered.limit⟩
  | missed v' hstate hmissed =>
    exact ⟨hmissed.side h.side hstate, hmissed.targets, hmissed.currentRoot, hmissed.limit⟩

lemma Walking.entered : v.state[top.oid]? = some .inProgress := by
  have hmark := (h.search.entered top.oid).mpr (by simp [view, Frame.view])
  exact mark_eq.mp hmark

lemma Walking.asked (hchild : top.edges[top.next]? = some child) : Asked check eligible child :=
  ⟨root, mem_of_getElem? h.current, h.below_child hchild⟩

section
variable (hlog : Logged check v)
include hlog

/-- A frame closed is a round of the search. -/
lemma Walking.finish (hdone : top.edges[top.next]? = none) :
    Goes check eligible v (finish check top below) fun stack v' =>
      v'.view stack = step check.edges (v.view (top :: below)) ∧
        Side check eligible v' ∧ Fixed v v' := by
  have hstack : (v.view (top :: below)).stack = top.view :: below.map Frame.view := rfl
  have hrest : top.view.rest = [] := drop_eq_nil_of_le (getElem?_eq_none_iff.mp hdone)
  have hframe : top.view.Ok check.edges (v.view (top :: below)).mark none := h.search.frames.1
  rw [step_of_done hstack hrest]
  cases hcomplete : top.complete with
  | true =>
    refine (finish_complete hlog h.entered hcomplete).weaken (fun _ hs => hs) ?_
    rintro _ v' ⟨hlog, rfl, hclosed, hmissing⟩
    refine ⟨hlog, ?_, hclosed.side h.side h.entered, hclosed.targets, hclosed.currentRoot,
      hclosed.limit⟩
    have hcomplete' : top.view.complete = true := hcomplete
    simp only [Search.State.close, hcomplete', if_true, view, hclosed.state, hmissing]
    rw [mark_insert]
    rfl
  | false =>
    obtain ⟨missing, htop', -⟩ := hframe.tainted hcomplete
    have htop : top.missing = some missing := htop'
    refine (finish_incomplete hlog h.entered h.side.reads hcomplete htop).weaken (fun _ hs => hs) ?_
    rintro _ v' ⟨hlog, rfl, hclosed, hmissing⟩
    refine ⟨hlog, ?_, hclosed.side h.side h.entered, hclosed.targets, hclosed.currentRoot,
      hclosed.limit⟩
    have hcomplete' : ¬ top.view.complete = true := by
      rw [show top.view.complete = top.complete from rfl, hcomplete]
      exact Bool.false_ne_true
    rw [Search.State.close, if_neg hcomplete', htop', htop]
    simp only [view, hclosed.state, hmissing]
    rw [mark_insert, get_insert_eq_update _ _ _ fun missing => missing]
    cases below <;> rfl

/-- The step lemma: a round of the loop is a round of the search, and keeps what is beside it. -/
lemma Walking.round (hacyclic : Search.Acyclic check.edges) :
    Goes check eligible v (Verifier.round check top below) fun stack v' =>
      Walking check eligible root v' stack ∧ Fixed v v' ∧
        v'.view stack = step check.edges (v.view (top :: below)) := by
  have hmove : Goes check eligible v (Verifier.round check top below) fun stack v' =>
      v'.view stack = step check.edges (v.view (top :: below)) ∧
        Side check eligible v' ∧ Fixed v v' := by
    unfold Verifier.round
    cases hchild : top.edges[top.next]? with
    | some child =>
      refine (follow_goes hlog h.side.reads (fun hnew hmem => h.side.decided child hmem hnew)
        (h.asked hchild)).weaken (fun _ hs => hs) ?_
      rintro stack v' ⟨hlog, hfollowed⟩
      exact ⟨hlog, hfollowed.view_eq hchild, hfollowed.side h hchild⟩
    | none => exact h.finish hlog hchild
  refine hmove.weaken (fun _ hs => hs) ?_
  rintro stack v' ⟨hlog, hview, hside, hfixed⟩
  refine ⟨hlog, ⟨hside, ?_, ?_⟩, hfixed, hview⟩
  · rw [hfixed.currentRoot]
    exact h.current
  · rw [hview]
    exact h.search.step check.edges hacyclic

end

end

/-! ### A whole walk -/

/-- What the loop leaves: a walk that is over, everything met before still met. -/
structure Walked (check : Check) (eligible : List ProtectedRoot) (root : ProtectedRoot)
    (v v' : Verifier) : Prop where
  walking : Walking check eligible root v' []
  fixed : Fixed v v'
  met : ∀ oid : ObjectId, v.state[oid]? ≠ none → v'.state[oid]? ≠ none

lemma view_met (v : Verifier) (stack : List Frame) (oid : ObjectId) :
    (v.view stack).mark oid ≠ none ↔ v.state[oid]? ≠ none := by
  simp [view]

/-- The run lemma: rounds enough for what is left end the walk. -/
lemma Walking.loop {nodes : Finset ObjectId} (hacyclic : Search.Acyclic check.edges)
    (hnodes : ∀ a b, Search.Edge check.edges a b → b ∈ nodes) (rounds : ℕ) (hlog : Logged check v)
    (h : Walking check eligible root v stack)
    (hrounds : weight check.edges nodes (v.view stack) ≤ rounds) :
    Goes check eligible v (loop check rounds stack) fun ended v' =>
      ended = true ∧ Walked check eligible root v v' := by
  induction rounds generalizing v stack with
  | zero =>
    cases stack with
    | nil => exact done ⟨hlog, rfl, h, .refl v, fun _ hmet => hmet⟩
    | cons => simp [weight, view] at hrounds
  | succ rounds ih =>
    cases stack with
    | nil => exact done ⟨hlog, rfl, h, .refl v, fun _ hmet => hmet⟩
    | cons =>
      refine bind_state (h.round hlog hacyclic) ?_
      rintro stack between ⟨hlog, hwalking, hfixed, hview⟩
      have hless := weight_step_lt h.search (by simp [view]) hnodes
      rw [← hview] at hless
      refine (ih hlog hwalking (by omega)).weaken (fun _ hs => hs) ?_
      rintro _ v' ⟨hlog, hended, hwalked⟩
      refine ⟨hlog, hended, hwalked.walking, hfixed.trans hwalked.fixed, ?_⟩
      intro oid hmet
      apply hwalked.met
      rw [← view_met between stack, hview]
      exact step_met ((view_met v _ oid).mpr hmet)

end Verifier
end GwzCore.HistoryCheck
