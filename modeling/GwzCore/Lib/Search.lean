import Mathlib

/-!
# Depth-first search with marks

A graph is read one node at a time: reading gives the successors of a node, or finds the
node missing. The search marks every node it meets and keeps a stack of the nodes it is
inside. A node is closed once its successors are decided: complete when nothing below it
is missing, otherwise incomplete with one missing node below it.

Over a graph without cycles, an empty stack leaves every met node decided, and decided
rightly: complete nodes are whole, incomplete ones name a missing node below them.
-/
namespace GwzCore.Search
open List Function Option

variable {α : Type*} (read : α → Option (List α)) {b a : α} {rest : List α} {above : Option α}
  {nodes : Finset α} {missing missing' : α → Option α}

/-- Reading `a` gives `b` as a successor. -/
def Edge (a b : α) : Prop := ∃ next, read a = some next ∧ b ∈ next

/-- `b` is `a` or lies below it. -/
abbrev Below : α → α → Prop := Relation.ReflTransGen (Edge read)

/-- Everything below `a` can be read, `a` too. -/
def Whole (a : α) : Prop := ∀ b, Below read a b → read b ≠ none

/-- No node lies below itself. -/
def Acyclic : Prop := ∀ a, ¬ Relation.TransGen (Edge read) a a

inductive Mark where
  | entered
  | complete
  | incomplete
  deriving DecidableEq

/-- A node the search is inside: the successors still to visit, whether those visited are
complete, and the first missing node found below it. -/
structure Frame (α : Type*) where
  node : α
  rest : List α
  complete : Bool
  missing : Option α

/-- A missing node was found below the frame's node. -/
def Frame.taint (f : Frame α) (missing : Option α) : Frame α :=
  { f with complete := false, missing := f.missing.or missing }

structure State (α : Type*) where
  mark : α → Option Mark
  missing : α → Option α
  stack : List (Frame α)

variable [DecidableEq α] {mark : α → Option Mark} {stack : List (Frame α)}

/-- Enters a node that can be read and records one that is missing. -/
def State.visit (s : State α) (a : α) : State α :=
  match read a with
  | some next =>
    { s with
      mark := Function.update s.mark a (some .entered)
      stack := ⟨a, next, true, none⟩ :: s.stack }
  | none =>
    { s with
      mark := Function.update s.mark a (some .incomplete)
      missing := Function.update s.missing a (some a) }

/-- Closes the node of the top frame and tells the frame below it. -/
def State.close (s : State α) (f : Frame α) (below : List (Frame α)) : State α :=
  if f.complete then
    { s with mark := Function.update s.mark f.node (some .complete), stack := below }
  else
    { mark := Function.update s.mark f.node (some .incomplete)
      missing := Function.update s.missing f.node f.missing
      stack := below.modifyHead fun parent => parent.taint f.missing }

/-- One round: the next successor of the top frame, or its closing. -/
def step (s : State α) : State α :=
  match s.stack with
  | [] => s
  | f :: below =>
    match f.rest with
    | [] => s.close f below
    | b :: rest =>
      let moved := { f with rest }
      match s.mark b with
      | some .complete | some .entered => { s with stack := moved :: below }
      | some .incomplete =>
        { s with stack := moved.taint ((s.missing b).or (some b)) :: below }
      | none =>
        match read b with
        | some _ => { s with stack := moved :: below }.visit read b
        | none => { s with stack := moved.taint (some b) :: below }.visit read b

section Round
variable {read} {s : State α} {f : Frame α} {below : List (Frame α)}

section

variable (hstack : s.stack = f :: below)
include hstack

lemma step_of_done (hrest : f.rest = []) : step read s = s.close f below := by
  simp [step, hstack, hrest]

section

variable (hrest : f.rest = b :: rest)
include hrest

lemma step_of_complete (hb : s.mark b = some .complete) :
    step read s = { s with stack := { f with rest } :: below } := by
  simp [step, hstack, hrest, hb]

lemma step_of_entered (hb : s.mark b = some .entered) :
    step read s = { s with stack := { f with rest } :: below } := by
  simp [step, hstack, hrest, hb]

lemma step_of_incomplete (hb : s.mark b = some .incomplete) :
    step read s =
      { s with stack := { f with rest }.taint ((s.missing b).or (some b)) :: below } := by
  simp [step, hstack, hrest, hb]

lemma step_of_present {next : List α} (hb : s.mark b = none) (hread : read b = some next) :
    step read s = { s with stack := { f with rest } :: below }.visit read b := by
  simp [step, hstack, hrest, hb, hread]

lemma step_of_missing (hb : s.mark b = none) (hread : read b = none) :
    step read s = { s with stack := { f with rest }.taint (some b) :: below }.visit read b := by
  simp [step, hstack, hrest, hb, hread]

end

end

end Round

/-! ### The marks -/

/-- The first marks are kept by the second: met nodes stay met, complete ones complete. -/
structure Extends (mark mark' : α → Option Mark) : Prop where
  met : ∀ {a}, mark a ≠ none → mark' a ≠ none
  complete : ∀ {a}, mark a = some .complete → mark' a = some .complete

omit [DecidableEq α] in
lemma Extends.refl (mark : α → Option Mark) : Extends mark mark := ⟨id, id⟩

/-- A mark may be written on any node but a complete one. -/
lemma extends_update (new : Mark) (h : mark a ≠ some .complete) :
    Extends mark (update mark a (some new)) where
  met := by
    intro b hb
    by_cases hba : b = a
    · subst hba
      simp
    · rwa [update_of_ne hba]
  complete := by
    intro b hb
    have hba : b ≠ a := by
      rintro rfl
      exact h hb
    rwa [update_of_ne hba]

/-- `m` is missing and lies below `a`. -/
def MissingBelow (a m : α) : Prop := read m = none ∧ Below read a m

/-- What the marks of decided nodes say. -/
structure Decided (mark : α → Option Mark) (missing : α → Option α) : Prop where
  complete : ∀ {a}, mark a = some .complete →
    ∃ next, read a = some next ∧ ∀ b ∈ next, mark b = some .complete
  incomplete : ∀ {a}, mark a = some .incomplete → ∃ m, missing a = some m ∧ MissingBelow read a m
  met : ∀ {a b}, mark a = some .incomplete → Edge read a b → mark b ≠ none

/-- A frame has read its node and visited the first of its successors. All but the node
entered from it are decided, and decided complete unless it is tainted. -/
structure Frame.Ok (mark : α → Option Mark) (above : Option α) (f : Frame α) : Prop where
  visited : ∃ done, read f.node = some (done ++ f.rest) ∧ (∀ b ∈ done, mark b ≠ none) ∧
    (f.complete = true → ∀ b ∈ done, mark b = some .complete ∨ above = some b)
  tainted : f.complete = false → ∃ m, f.missing = some m ∧ MissingBelow read f.node m
  untainted : f.complete = true → f.missing = none

/-- The frames of a stack, each with the node entered from it. -/
def StackOk (mark : α → Option Mark) : Option α → List (Frame α) → Prop
  | _, [] => True
  | above, f :: below => f.Ok read mark above ∧ StackOk mark (some f.node) below

omit [DecidableEq α] in
lemma Frame.Ok.extends {mark mark' : α → Option Mark} {f : Frame α} (h : f.Ok read mark above)
    (hmark : Extends mark mark') : f.Ok read mark' above where
  visited := by
    obtain ⟨done, hread, hmet, hcomplete⟩ := h.visited
    refine ⟨done, hread, fun b hb => hmark.met (hmet b hb), ?_⟩
    intro hf b hb
    exact (hcomplete hf b hb).imp_left hmark.complete
  tainted := h.tainted
  untainted := h.untainted

omit [DecidableEq α] in
lemma StackOk.extends {mark mark' : α → Option Mark} (hmark : Extends mark mark')
    (h : StackOk read mark above stack) : StackOk read mark' above stack := by
  induction stack generalizing above with
  | nil => trivial
  | cons f below ih => exact ⟨h.1.extends read hmark, ih h.2⟩

/-- What the search keeps from round to round. `start` is the node it began at. -/
structure Inv (start : α) (s : State α) : Prop where
  decided : Decided read s.mark s.missing
  frames : StackOk read s.mark none s.stack
  /-- Every frame was entered from the one under it. -/
  chain : s.stack.IsChain fun upper lower => Edge read lower.node upper.node
  nodup : (s.stack.map Frame.node).Nodup
  entered : ∀ a, s.mark a = some .entered ↔ a ∈ s.stack.map Frame.node
  reached : ∀ f ∈ s.stack, Below read start f.node

omit [DecidableEq α] in
/-- The top of the stack lies below every node of it. -/
lemma below_top {f : Frame α}
    (hchain : (f :: stack).IsChain fun upper lower => Edge read lower.node upper.node) :
    ∀ a ∈ (f :: stack).map Frame.node, Below read a f.node := by
  induction stack generalizing f with
  | nil =>
    intro a ha
    simp only [map_cons, map_nil, mem_singleton] at ha
    exact ha ▸ Relation.ReflTransGen.refl
  | cons g rest ih =>
    rw [isChain_cons_cons] at hchain
    intro a ha
    rw [map_cons, mem_cons] at ha
    rcases ha with rfl | ha
    · exact Relation.ReflTransGen.refl
    · exact (ih hchain.2 a ha).tail hchain.1

/-! ### One round -/

/-- Marking an undecided node needs only what the new mark says of that node. -/
lemma Decided.update {new : Mark} (h : Decided read mark missing)
    (ha : mark a ≠ some .complete) (hmissing : ∀ b, b ≠ a → missing' b = missing b)
    (hcomplete : new = .complete → ∃ next, read a = some next ∧ ∀ b ∈ next, mark b = some .complete)
    (hincomplete : new = .incomplete → (∃ m, missing' a = some m ∧ MissingBelow read a m) ∧
      ∀ b, Edge read a b → mark b ≠ none) :
    Decided read (update mark a (some new)) missing' := by
  have hkept := extends_update new ha
  constructor
  · intro b hb
    by_cases hba : b = a
    · subst hba
      rw [update_self, Option.some.injEq] at hb
      obtain ⟨next, hread, hnext⟩ := hcomplete hb
      exact ⟨next, hread, fun c hc => hkept.complete (hnext c hc)⟩
    · rw [update_of_ne hba] at hb
      obtain ⟨next, hread, hnext⟩ := h.complete hb
      exact ⟨next, hread, fun c hc => hkept.complete (hnext c hc)⟩
  · intro b hb
    by_cases hba : b = a
    · subst hba
      rw [update_self, Option.some.injEq] at hb
      exact (hincomplete hb).1
    · rw [update_of_ne hba] at hb
      rw [hmissing b hba]
      exact h.incomplete hb
  · intro b c hb hedge
    by_cases hba : b = a
    · subst hba
      rw [update_self, Option.some.injEq] at hb
      exact hkept.met ((hincomplete hb).2 c hedge)
    · rw [update_of_ne hba] at hb
      exact hkept.met (h.met hb hedge)

/-- A frame that moves past a successor. -/
structure Passes (mark : α → Option Mark) (above : Option α) (b : α)
    (f moved : Frame α) : Prop where
  node : moved.node = f.node
  rest : f.rest = b :: moved.rest
  met : mark b ≠ none
  complete : moved.complete = true → f.complete = true ∧ (mark b = some .complete ∨ above = some b)
  tainted : moved.complete = false → ∃ m, moved.missing = some m ∧ MissingBelow read f.node m
  untainted : moved.complete = true → moved.missing = none

omit [DecidableEq α] in
lemma Frame.Ok.passes {f moved : Frame α} (h : f.Ok read mark none)
    (hpass : Passes read mark above b f moved) : moved.Ok read mark above where
  visited := by
    obtain ⟨done, hread, hmet, hcomplete⟩ := h.visited
    refine ⟨done ++ [b], ?_, ?_, ?_⟩
    · rw [hpass.node, hread, hpass.rest, append_assoc, singleton_append]
    · intro c hc
      rcases mem_append.mp hc with hc | hc
      · exact hmet c hc
      · rw [mem_singleton.mp hc]
        exact hpass.met
    · intro hmoved c hc
      obtain ⟨hf, hb⟩ := hpass.complete hmoved
      rcases mem_append.mp hc with hc | hc
      · left
        exact (hcomplete hf c hc).resolve_right (by simp)
      · rw [mem_singleton.mp hc]
        exact hb
  tainted := by
    intro hmoved
    rw [hpass.node]
    exact hpass.tainted hmoved
  untainted := hpass.untainted

omit [DecidableEq α] in
lemma MissingBelow.of_edge {m : α} (hedge : Edge read a b) (h : MissingBelow read b m) :
    MissingBelow read a m :=
  ⟨h.1, h.2.head hedge⟩

omit [DecidableEq α] in
/-- A taint names a missing node: the one found before, or the new one. -/
lemma Frame.Ok.taint_missing {f : Frame α} {m : α}
    (h : f.Ok read mark above) (hm : MissingBelow read f.node m) :
    ∃ m', f.missing.or (some m) = some m' ∧ MissingBelow read f.node m' := by
  cases hcomplete : f.complete with
  | true =>
    rw [h.untainted hcomplete]
    exact ⟨m, rfl, hm⟩
  | false =>
    obtain ⟨m', hmissing, hbelow⟩ := h.tainted hcomplete
    rw [hmissing]
    exact ⟨m', rfl, hbelow⟩

variable {start : α} {s : State α} {f : Frame α} {below : List (Frame α)}

omit [DecidableEq α] in
/-- The top frame's next successor is an edge of its node. -/
lemma Inv.edge (h : Inv read start s) (hstack : s.stack = f :: below)
    (hrest : f.rest = b :: rest) : Edge read f.node b := by
  have hframes := h.frames
  rw [hstack] at hframes
  obtain ⟨done, hread, _⟩ := hframes.1.visited
  exact ⟨_, hread, by simp [hrest]⟩

omit [DecidableEq α] in
/-- Replacing the top frame by one at the same node keeps the rest. -/
lemma Inv.replace {moved : Frame α} (h : Inv read start s) (hstack : s.stack = f :: below)
    (hnode : moved.node = f.node) (hok : moved.Ok read s.mark none) :
    Inv read start { s with stack := moved :: below } := by
  obtain ⟨hdecided, hframes, hchain, hnodup, hentered, hreached⟩ := h
  rw [hstack] at hframes hchain hnodup hentered hreached
  refine ⟨hdecided, ⟨hok, ?_⟩, ?_, ?_, ?_, ?_⟩
  · rw [hnode]
    exact hframes.2
  · cases below with
    | nil => exact isChain_singleton _
    | cons =>
      rw [isChain_cons_cons] at hchain ⊢
      rw [hnode]
      exact hchain
  · rw [map_cons, hnode, ← map_cons]
    exact hnodup
  · rw [map_cons, hnode, ← map_cons]
    exact hentered
  · intro g hg
    rcases mem_cons.mp hg with rfl | hg
    · rw [hnode]
      exact hreached f mem_cons_self
    · exact hreached g (mem_cons_of_mem _ hg)

omit [DecidableEq α] in
/-- In a graph without cycles the search never meets a node it is inside. -/
lemma Inv.not_entered (hacyclic : Acyclic read) (h : Inv read start s)
    (hstack : s.stack = f :: below) (hrest : f.rest = b :: rest) : s.mark b ≠ some .entered := by
  intro hb
  have hedge := h.edge read hstack hrest
  have hmem := (h.entered b).mp hb
  rw [hstack] at hmem
  have hchain := h.chain
  rw [hstack] at hchain
  exact hacyclic f.node (Relation.TransGen.head' hedge (below_top read hchain b hmem))

section
variable (h : Inv read start s) (hstack : s.stack = f :: below) (hrest : f.rest = b :: rest)
include h hstack hrest

omit [DecidableEq α] in
/-- A successor decided before is passed. -/
lemma Inv.pass (hb : s.mark b = some .complete) :
    Inv read start { s with stack := { f with rest } :: below } := by
  have hframes := h.frames
  rw [hstack] at hframes
  refine h.replace read hstack rfl (hframes.1.passes read (b := b) ?_)
  exact ⟨rfl, hrest, by simp [hb], fun hf => ⟨hf, .inl hb⟩, hframes.1.tainted, hframes.1.untainted⟩

omit [DecidableEq α] in
/-- A successor decided incomplete taints the frame with the node it names. -/
lemma Inv.taint (hb : s.mark b = some .incomplete) :
    Inv read start
      { s with stack := { f with rest }.taint ((s.missing b).or (some b)) :: below } := by
  have hframes := h.frames
  rw [hstack] at hframes
  obtain ⟨m, hmissing, hbelow⟩ := h.decided.incomplete hb
  have hm := hbelow.of_edge read (h.edge read hstack hrest)
  refine h.replace read hstack rfl (hframes.1.passes read (b := b) ?_)
  refine ⟨rfl, hrest, by simp [hb], by simp [Frame.taint], ?_, by simp [Frame.taint]⟩
  intro _
  rw [hmissing]
  exact hframes.1.taint_missing read hm

/-- A node that can be read is entered. -/
lemma Inv.enter {next : List α} (hb : s.mark b = none) (hread : read b = some next) :
    Inv read start ({ s with stack := { f with rest } :: below }.visit read b) := by
  have hedge := h.edge read hstack hrest
  obtain ⟨hdecided, hframes, hchain, hnodup, hentered, hreached⟩ := h
  rw [hstack] at hframes hchain hnodup hentered hreached
  have hb' : s.mark b ≠ some .complete := by simp [hb]
  have hkept := extends_update .entered hb'
  have hfresh : b ∉ (f :: below).map Frame.node := by
    rw [← hentered, hb]
    simp
  simp only [State.visit, hread]
  refine ⟨hdecided.update read hb' (fun _ _ => rfl) (by simp) (by simp),
    ⟨?_, ?_, ?_⟩, ?_, ?_, ?_, ?_⟩
  · exact ⟨⟨[], hread, by simp, by simp⟩, by simp, fun _ => rfl⟩
  · refine (hframes.1.extends read hkept).passes read (b := b) ?_
    exact ⟨rfl, hrest, by simp, fun hf => ⟨hf, .inr rfl⟩, hframes.1.tainted, hframes.1.untainted⟩
  · exact hframes.2.extends read hkept
  · rw [isChain_cons_cons]
    refine ⟨hedge, ?_⟩
    cases below with
    | nil => exact isChain_singleton _
    | cons =>
      rw [isChain_cons_cons] at hchain ⊢
      exact hchain
  · rw [map_cons, nodup_cons]
    exact ⟨hfresh, hnodup⟩
  · intro a
    by_cases ha : a = b
    · subst ha
      simp
    · simp [hentered, ha]
  · intro g hg
    have htop := hreached f mem_cons_self
    rcases mem_cons.mp hg with rfl | hg
    · exact htop.tail hedge
    · rcases mem_cons.mp hg with rfl | hg
      · exact htop
      · exact hreached g (mem_cons_of_mem _ hg)

/-- A missing successor taints the frame it was found from. -/
lemma Inv.miss (hb : s.mark b = none) (hread : read b = none) :
    Inv read start ({ s with stack := { f with rest }.taint (some b) :: below }.visit read b) := by
  have hb' : s.mark b ≠ some .complete := by simp [hb]
  have hkept := extends_update .incomplete hb'
  have hnode : b ∉ s.stack.map Frame.node := by
    rw [← h.entered, hb]
    simp
  have hself : MissingBelow read b b := ⟨hread, .refl⟩
  -- first the marks, then the frame that moves past the node
  have hmarked : Inv read start { s with
        mark := update s.mark b (some .incomplete)
        missing := update s.missing b (some b) } := by
    refine ⟨?_, h.frames.extends read hkept, h.chain, h.nodup, ?_, h.reached⟩
    · refine h.decided.update read hb' (fun c hc => update_of_ne hc _ _) (by simp) ?_
      intro _
      refine ⟨⟨b, update_self .., hself⟩, ?_⟩
      rintro c ⟨next, hnext, _⟩
      rw [hread] at hnext
      cases hnext
    · intro a
      by_cases ha : a = b
      · subst ha
        simpa using hnode
      · have hothers : update s.mark b (some .incomplete) a = s.mark a :=
          update_of_ne ha _ _
        simpa [hothers] using h.entered a
  have htainted := hmarked.taint read hstack hrest (update_self ..)
  simp only [update_self, some_or] at htainted
  simpa [State.visit, hread] using htainted

end

omit [DecidableEq α] in
/-- Every successor of a frame that is done was visited. -/
lemma Frame.Ok.done (h : f.Ok read mark none) (hrest : f.rest = []) :
    ∃ next, read f.node = some next ∧ (∀ b ∈ next, mark b ≠ none) ∧
      (f.complete = true → ∀ b ∈ next, mark b = some .complete) := by
  obtain ⟨next, hread, hmet, hcomplete⟩ := h.visited
  rw [hrest, append_nil] at hread
  exact ⟨next, hread, hmet, fun hf b hb => (hcomplete hf b hb).resolve_right (by simp)⟩

omit [DecidableEq α] in
/-- The frame under a closed node no longer waits for it. -/
lemma Frame.Ok.returned {mark mark' : α → Option Mark} (hmark : Extends mark mark')
    (h : f.Ok read mark (some a)) (ha : f.complete = true → mark' a = some .complete) :
    f.Ok read mark' none where
  visited := by
    obtain ⟨done, hread, hmet, hcomplete⟩ := h.visited
    refine ⟨done, hread, fun b hb => hmark.met (hmet b hb), ?_⟩
    intro hf b hb
    rcases hcomplete hf b hb with hb | hb
    · exact .inl (hmark.complete hb)
    · rw [← Option.some.inj hb]
      exact .inl (ha hf)
  tainted := h.tainted
  untainted := h.untainted

omit [DecidableEq α] in
lemma Frame.Ok.taint {m : α} (h : f.Ok read mark above)
    (hm : MissingBelow read f.node m) : (f.taint (some m)).Ok read mark above where
  visited := by
    obtain ⟨done, hread, hmet, _⟩ := h.visited
    exact ⟨done, hread, hmet, by simp [Frame.taint]⟩
  tainted := fun _ => h.taint_missing read hm
  untainted := by simp [Frame.taint]

/-- The stack under the top frame after that frame's node is closed. -/
lemma Inv.shrink {mark' : α → Option Mark} {parents : List (Frame α)} (h : Inv read start s)
    (hstack : s.stack = f :: below) (hparents : parents.map Frame.node = below.map Frame.node)
    (hdecided : Decided read mark' missing') (hframes : StackOk read mark' none parents)
    (hmark : ∀ a, a ≠ f.node → mark' a = s.mark a) (hclosed : mark' f.node ≠ some .entered) :
    Inv read start ⟨mark', missing', parents⟩ := by
  obtain ⟨_, _, hchain, hnodup, hentered, hreached⟩ := h
  rw [hstack] at hchain hnodup hentered hreached
  rw [map_cons, nodup_cons] at hnodup
  have hnodes : (below.map Frame.node).IsChain fun upper lower => Edge read lower upper :=
    (isChain_map _).mpr hchain.tail
  refine ⟨hdecided, hframes, ?_, ?_, ?_, ?_⟩
  · rw [← hparents] at hnodes
    exact (isChain_map _).mp hnodes
  · rw [hparents]
    exact hnodup.2
  · intro a
    rw [hparents]
    by_cases ha : a = f.node
    · subst ha
      exact ⟨fun hmark => absurd hmark hclosed, fun hmem => absurd hmem hnodup.1⟩
    · simp [hmark a ha, hentered, ha]
  · intro g hg
    have hmem : g.node ∈ below.map Frame.node := by
      rw [← hparents]
      exact mem_map_of_mem hg
    obtain ⟨parent, hparent, hnode⟩ := mem_map.mp hmem
    rw [← hnode]
    exact hreached parent (mem_cons_of_mem _ hparent)

/-- The node of a frame that is done is closed. -/
lemma Inv.close (h : Inv read start s) (hstack : s.stack = f :: below) (hrest : f.rest = []) :
    Inv read start (s.close f below) := by
  have hframes := h.frames
  rw [hstack] at hframes
  obtain ⟨next, hread, hmet, hdone⟩ := hframes.1.done read hrest
  have hentered : s.mark f.node = some .entered := by
    rw [h.entered, hstack]
    simp
  have hnode : s.mark f.node ≠ some .complete := by simp [hentered]
  have hothers : ∀ new a, a ≠ f.node → update s.mark f.node (some new) a = s.mark a :=
    fun new a ha => update_of_ne ha _ _
  cases hcomplete : f.complete with
  | true =>
    simp only [State.close, hcomplete, if_true]
    have hkept := extends_update .complete hnode
    refine h.shrink read hstack rfl ?_ ?_ (hothers _) (by simp)
    · exact h.decided.update read hnode (fun _ _ => rfl)
        (fun _ => ⟨next, hread, hdone hcomplete⟩) (by simp)
    · cases below with
      | nil => trivial
      | cons =>
        exact ⟨hframes.2.1.returned read hkept (by simp), hframes.2.2.extends read hkept⟩
  | false =>
    simp only [State.close, hcomplete, Bool.false_eq_true, if_false]
    have hkept := extends_update .incomplete hnode
    obtain ⟨m, hmissing, hm⟩ := hframes.1.tainted hcomplete
    refine h.shrink read hstack ?_ ?_ ?_ (hothers _) (by simp)
    · cases below <;> rfl
    · refine h.decided.update read hnode (fun b hb => update_of_ne hb _ _) (by simp) ?_
      intro _
      refine ⟨⟨m, by simp [hmissing], hm⟩, ?_⟩
      rintro b ⟨next', hread', hb⟩
      rw [hread] at hread'
      cases hread'
      exact hmet b hb
    · cases below with
      | nil => trivial
      | cons =>
        have hchain := h.chain
        rw [hstack, isChain_cons_cons] at hchain
        have hparent := (hframes.2.1.extends read hkept).taint read (hm.of_edge read hchain.1)
        rw [modifyHead_cons, hmissing]
        exact ⟨hparent.returned read (Extends.refl _) (by simp [Frame.taint]),
          hframes.2.2.extends read hkept⟩

/-- The step lemma: a round keeps the invariant. -/
lemma Inv.step (hacyclic : Acyclic read) (h : Inv read start s) :
    Inv read start (Search.step read s) := by
  cases hstack : s.stack with
  | nil =>
    simp only [Search.step, hstack]
    exact h
  | cons f =>
    cases hrest : f.rest with
    | nil =>
      rw [step_of_done hstack hrest]
      exact h.close read hstack hrest
    | cons b =>
      cases hb : s.mark b with
      | some mark =>
        cases mark with
        | complete =>
          rw [step_of_complete hstack hrest hb]
          exact h.pass read hstack hrest hb
        | entered => exact absurd hb (h.not_entered read hacyclic hstack hrest)
        | incomplete =>
          rw [step_of_incomplete hstack hrest hb]
          exact h.taint read hstack hrest hb
      | none =>
        cases hread : read b with
        | some next =>
          rw [step_of_present hstack hrest hb hread]
          exact h.enter read hstack hrest hb hread
        | none =>
          rw [step_of_missing hstack hrest hb hread]
          exact h.miss read hstack hrest hb hread

/-! ### The end of a search -/

variable {read}

omit [DecidableEq α] in
/-- Complete nodes are whole, whatever is on the stack. -/
lemma Decided.whole (h : Decided read mark missing)
    (ha : mark a = some .complete) : Whole read a := by
  have hbelow : ∀ b, Below read a b → mark b = some .complete := by
    intro b hb
    induction hb with
    | refl => exact ha
    | tail _ hedge ih =>
      obtain ⟨next, hread, hnext⟩ := h.complete ih
      obtain ⟨next', hread', hmem⟩ := hedge
      rw [hread] at hread'
      cases hread'
      exact hnext _ hmem
  intro b hb
  obtain ⟨next, hread, _⟩ := h.complete (hbelow b hb)
  simp [hread]

omit [DecidableEq α] in
/-- With an empty stack no node is left undecided. -/
lemma Inv.settled (h : Inv read start s) (hstack : s.stack = []) (ha : s.mark a ≠ none) :
    s.mark a = some .complete ∨ s.mark a = some .incomplete := by
  have hentered : s.mark a ≠ some .entered := by
    rw [Ne, h.entered, hstack]
    simp
  cases hmark : s.mark a with
  | none => exact absurd hmark ha
  | some mark => cases mark <;> simp_all

omit [DecidableEq α] in
/-- With an empty stack everything below a met node was met. -/
lemma Inv.met_below (h : Inv read start s) (hstack : s.stack = []) (ha : s.mark a ≠ none)
    (hb : Below read a b) : s.mark b ≠ none := by
  induction hb with
  | refl => exact ha
  | tail _ hedge ih =>
    rcases h.settled hstack ih with hcomplete | hincomplete
    · obtain ⟨next, hread, hnext⟩ := h.decided.complete hcomplete
      obtain ⟨next', hread', hmem⟩ := hedge
      rw [hread] at hread'
      cases hread'
      simp [hnext _ hmem]
    · exact h.decided.met hincomplete hedge

omit [DecidableEq α] in
/-- With an empty stack a met node is marked complete exactly when it is whole. -/
lemma Inv.complete_iff (h : Inv read start s) (hstack : s.stack = []) (ha : s.mark a ≠ none) :
    s.mark a = some .complete ↔ Whole read a := by
  refine ⟨h.decided.whole, ?_⟩
  intro hwhole
  rcases h.settled hstack ha with hcomplete | hincomplete
  · exact hcomplete
  · obtain ⟨m, _, hmissing, hbelow⟩ := h.decided.incomplete hincomplete
    exact absurd hmissing (hwhole m hbelow)

/-- A search begins at a node not met before, with an empty stack. -/
lemma Inv.begin {before : α} (h : Inv read before s) (hstack : s.stack = [])
    (hfresh : s.mark start = none) : Inv read start (s.visit read start) := by
  obtain ⟨hdecided, _, _, _, hentered, _⟩ := h
  rw [hstack] at hentered
  have hstart : s.mark start ≠ some .complete := by simp [hfresh]
  unfold State.visit
  cases hread : read start with
  | some next =>
    simp only [hstack]
    refine ⟨hdecided.update read hstart (fun _ _ => rfl) (by simp) (by simp), ?_, ?_, ?_, ?_, ?_⟩
    · exact ⟨⟨⟨[], hread, by simp, by simp⟩, by simp, fun _ => rfl⟩, trivial⟩
    · exact isChain_singleton _
    · exact nodup_singleton _
    · intro a
      by_cases ha : a = start
      · subst ha
        simp
      · have hothers : update s.mark start (some .entered) a = s.mark a :=
          update_of_ne ha _ _
        simpa [hothers, ha] using hentered a
    · intro f hf
      rw [mem_singleton.mp hf]
  | none =>
    simp only [hstack]
    refine ⟨?_, trivial, isChain_nil, nodup_nil, ?_, by simp⟩
    · refine hdecided.update read hstart (fun b hb => update_of_ne hb _ _) (by simp) ?_
      intro _
      refine ⟨⟨start, update_self .., hread, .refl⟩, ?_⟩
      rintro b ⟨next, hnext, _⟩
      rw [hread] at hnext
      cases hnext
    · intro a
      by_cases ha : a = start
      · subst ha
        simp
      · have hothers : update s.mark start (some .incomplete) a = s.mark a :=
          update_of_ne ha _ _
        simpa [hothers] using hentered a

omit [DecidableEq α] in
/-- Before any search nothing is marked. -/
lemma Inv.init (start : α) (missing : α → Option α) :
    Inv read start ⟨fun _ => none, missing, []⟩ where
  decided := ⟨by simp, by simp, by simp⟩
  frames := trivial
  chain := isChain_nil
  nodup := nodup_nil
  entered := by simp
  reached := by simp

omit [DecidableEq α] in
/-- With an empty stack it does not matter where the search began. -/
lemma Inv.restart {before : α} (h : Inv read before s) (hstack : s.stack = []) : Inv read start s :=
  { h with reached := by simp [hstack] }

lemma visit_met (s : State α) (a : α) (hb : s.mark b ≠ none ∨ b = a) :
    (s.visit read a).mark b ≠ none := by
  unfold State.visit
  by_cases hba : b = a
  · subst hba
    split <;> simp
  · split <;> simpa [update_of_ne hba, hba] using hb

lemma close_met (s : State α) (f : Frame α) (below : List (Frame α)) (hb : s.mark b ≠ none) :
    (s.close f below).mark b ≠ none := by
  unfold State.close
  by_cases hbf : b = f.node
  · subst hbf
    split <;> simp
  · split <;> simpa [update_of_ne hbf] using hb

/-- A round forgets no mark. -/
lemma step_met (hb : s.mark b ≠ none) : (Search.step read s).mark b ≠ none := by
  unfold Search.step
  split
  · exact hb
  · split
    · exact close_met s _ _ hb
    · split
      · exact hb
      · exact hb
      · exact hb
      · split <;> exact visit_met _ _ (.inl hb)

/-! ### Termination -/

/-- What is left to do: the nodes of `nodes` not met yet, each with its successors, and
the successors the stack has still to visit. -/
def weight (read : α → Option (List α)) (nodes : Finset α) (s : State α) : ℕ :=
  (∑ a ∈ nodes with s.mark a = none, (((read a).getD []).length + 2)) +
    (s.stack.map fun f => f.rest.length + 1).sum

/-- Meeting a node takes its share out of the nodes not met. -/
lemma sum_update (new : Mark) (w : α → ℕ) (hb : b ∈ nodes) (hfresh : mark b = none) :
    (∑ a ∈ nodes with update mark b (some new) a = none, w a) + w b =
      ∑ a ∈ nodes with mark a = none, w a := by
  have herase : (nodes.filter fun a => update mark b (some new) a = none) =
      (nodes.filter fun a => mark a = none).erase b := by
    ext a
    by_cases ha : a = b
    · subst ha
      simp
    · simp [ha]
  rw [herase, Finset.sum_erase_add]
  simp [hb, hfresh]

/-- Marking a node met before changes nothing that is left to do. -/
lemma sum_update_of_met (new : Mark) (w : α → ℕ) (hmet : mark b ≠ none) :
    (∑ a ∈ nodes with update mark b (some new) a = none, w a) =
      ∑ a ∈ nodes with mark a = none, w a := by
  congr 1
  ext a
  by_cases ha : a = b
  · subst ha
    simp [hmet]
  · simp [update_of_ne ha]

/-- Beginning a search adds nothing to what is left to do. -/
lemma weight_visit_le (hstart : start ∈ nodes) (hfresh : s.mark start = none) :
    weight read nodes (s.visit read start) ≤ weight read nodes s := by
  have hless := fun new => sum_update new (fun a => ((read a).getD []).length + 2) hstart hfresh
  unfold State.visit
  cases hread : read start with
  | some next =>
    have hless := hless .entered
    simp only [hread, getD_some] at hless
    simp only [weight, map_cons, sum_cons]
    omega
  | none =>
    have hless := hless .incomplete
    simp only [weight]
    omega

omit [DecidableEq α] in
/-- With an empty stack at most the whole graph is left. -/
lemma weight_le (hstack : s.stack = []) :
    weight read nodes s ≤ ∑ a ∈ nodes, (((read a).getD []).length + 2) := by
  simp only [weight, hstack, map_nil, sum_nil, Nat.add_zero]
  exact Finset.sum_le_sum_of_subset (Finset.filter_subset _ _)

/-- Every round of a search that is not over leaves less to do. -/
lemma weight_step_lt (h : Inv read start s) (hstack : s.stack ≠ [])
    (hnodes : ∀ a b, Edge read a b → b ∈ nodes) :
    weight read nodes (Search.step read s) < weight read nodes s := by
  cases hstack' : s.stack with
  | nil => exact absurd hstack' hstack
  | cons f below =>
    cases hrest : f.rest with
    | nil =>
      rw [step_of_done hstack' hrest]
      have hmet : s.mark f.node ≠ none := by
        have hentered : s.mark f.node = some .entered := by
          rw [h.entered, hstack']
          simp
        simp [hentered]
      have hparents : ((below.modifyHead fun parent => parent.taint f.missing).map
          fun f => f.rest.length + 1) = below.map fun f => f.rest.length + 1 := by
        cases below <;> rfl
      cases hcomplete : f.complete <;>
        simp [weight, State.close, hcomplete, hstack', hrest, sum_update_of_met _ _ hmet, hparents]
    | cons b =>
      have hb : b ∈ nodes := hnodes _ _ (h.edge read hstack' hrest)
      cases hmark : s.mark b with
      | some mark =>
        cases mark with
        | complete =>
          rw [step_of_complete hstack' hrest hmark]
          simp [weight, hstack', hrest]
        | entered =>
          rw [step_of_entered hstack' hrest hmark]
          simp [weight, hstack', hrest]
        | incomplete =>
          rw [step_of_incomplete hstack' hrest hmark]
          simp [weight, hstack', hrest, Frame.taint]
      | none =>
        have hless := fun new => sum_update new (fun a => ((read a).getD []).length + 2) hb hmark
        cases hread : read b with
        | some next =>
          rw [step_of_present hstack' hrest hmark hread]
          have hless := hless .entered
          simp only [hread, getD_some] at hless
          simp only [weight, State.visit, hread, hstack', hrest, map_cons, sum_cons,
            length_cons]
          omega
        | none =>
          rw [step_of_missing hstack' hrest hmark hread]
          have hless := hless .incomplete
          simp only [weight, State.visit, hread, hstack', hrest, map_cons, sum_cons,
            length_cons, Frame.taint]
          omega

end GwzCore.Search
