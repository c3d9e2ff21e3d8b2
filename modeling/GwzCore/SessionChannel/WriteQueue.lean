import GwzCore.Lib.Steps
import GwzCore.SessionContract

/-!
# The byte-stream writer's order

Frames wait for the writer in arrival order. Each pop takes the oldest control
frame that nothing before it must stay ahead of, else the oldest frame. The
order is decided afresh at each pop, so its guarantees are about pairs of frames
over a whole run of pushes and pops, and a run numbers the frames it pushes.
-/
namespace GwzCore.SessionChannel
open List

open SessionContract

def sessionCallTag : UInt8 := 1

/-- A waiting frame: what the writer takes, its tag byte and its key. -/
structure Entry (T : Type) where
  item : T
  tag : UInt8
  key : FrameKey
  deriving DecidableEq

namespace Entry

variable {T : Type}

def control (entry : Entry T) : Bool := entry.key.cls = .control

/-- Whether `entry` may not leave while `before` waits ahead of it. -/
def heldBy (entry before : Entry T) : Bool :=
  before.tag = sessionCallTag || before.key.target = entry.key.target

lemma heldBy_eq_true {entry before : Entry T} :
    entry.heldBy before = true ↔
      before.tag = sessionCallTag ∨ before.key.target = entry.key.target := by
  simp [heldBy]

end Entry

/-- Frames waiting for the writer, in arrival order. -/
structure WriteQueue (T : Type) where
  entries : List (Entry T) := []

namespace WriteQueue

variable {T : Type} {queue : WriteQueue T}

/-- Queues `item`, a frame under `tag`, keyed by `key`. -/
def push (queue : WriteQueue T) (item : T) (tag : UInt8) (key : FrameKey) : WriteQueue T :=
  ⟨queue.entries ++ [⟨item, tag, key⟩]⟩

def len (queue : WriteQueue T) : ℕ := queue.entries.length

/-- Whether the entry at `index` is a control frame that nothing before it holds back. -/
def unblocked (queue : WriteQueue T) (index : ℕ) : Bool :=
  match queue.entries[index]? with
  | none => false
  | some entry => entry.control && !(queue.entries.take index).any entry.heldBy

/-- Where the next frame sits. -/
def nextIndex (queue : WriteQueue T) : Option ℕ :=
  if queue.entries.isEmpty then none
  else some (((List.range queue.entries.length).find? queue.unblocked).getD 0)

/-- Takes the frame the writer writes next. -/
def pop (queue : WriteQueue T) : Option T × WriteQueue T :=
  match queue.nextIndex with
  | none => (none, queue)
  | some index => (queue.entries[index]?.map (·.item), ⟨queue.entries.eraseIdx index⟩)

/-- The entry at the end of `before` is the next: either it is the oldest, or it
is a control frame that no entry of `before` holds back, and every control frame
of `before` is held back. -/
structure Next (before : List (Entry T)) (entry : Entry T) : Prop where
  control : before ≠ [] → entry.control = true
  free : ∀ other ∈ before, entry.heldBy other = false
  held : ∀ early other late, before = early ++ other :: late → other.control = true →
    ∃ blocking ∈ early, other.heldBy blocking = true

lemma Next.oldest (entry : Entry T) : Next [] entry := by
  refine ⟨fun h => absurd rfl h, ?_, ?_⟩
  · intro other hmem
    cases hmem
  · intro early other late heq
    simp at heq

lemma unblocked_append (before : List (Entry T)) (entry : Entry T) (after : List (Entry T)) :
    (WriteQueue.mk (before ++ entry :: after)).unblocked before.length =
      (entry.control && !before.any entry.heldBy) := by
  simp [unblocked]

/-- A nonempty queue splits at its next entry, and a pop takes that entry out. -/
lemma pop_split (hne : queue.entries ≠ []) :
    ∃ before entry after, queue.entries = before ++ entry :: after ∧ Next before entry ∧
      queue.pop = (some entry.item, ⟨before ++ after⟩) := by
  have hnonempty : queue.entries.isEmpty = false := by simpa using hne
  cases hfind : (range queue.entries.length).find? queue.unblocked with
  | none =>
    -- nothing is unblocked: the oldest entry leaves
    obtain ⟨entry, after, hentries⟩ := exists_cons_of_ne_nil hne
    refine ⟨[], entry, after, hentries, Next.oldest entry, ?_⟩
    simp only [pop, nextIndex, hnonempty, hfind]
    simp [hentries]
  | some index =>
    obtain ⟨hthis, hmem, hearlier⟩ := find?_range_eq_some.mp hfind
    have hlt : index < queue.entries.length := mem_range.mp hmem
    obtain ⟨before, entry, after, hentries, hlength⟩ :
        ∃ before entry after, queue.entries = before ++ entry :: after ∧ before.length = index := by
      refine ⟨queue.entries.take index, queue.entries[index],
        queue.entries.drop (index + 1), ?_, ?_⟩
      · simp
      · rw [length_take]
        omega
    obtain ⟨entries⟩ := queue
    subst hentries hlength
    rw [unblocked_append, Bool.and_eq_true] at hthis
    refine ⟨before, entry, after, rfl, ⟨fun _ => hthis.1, ?_, ?_⟩, ?_⟩
    · intro other hother
      have hnone : before.any entry.heldBy = false := by simpa using hthis.2
      exact Bool.eq_false_iff.mpr fun hheld =>
        Bool.eq_false_iff.mp hnone (any_eq_true.mpr ⟨other, hother, hheld⟩)
    · intro early other late heq hcontrol
      -- the earlier control frame was not found, so something before it holds it back
      have hblocked := hearlier early.length (by rw [heq]; simp)
      subst heq
      simp only [append_assoc, cons_append, unblocked_append, hcontrol] at hblocked
      simpa using hblocked
    · have herase : (before ++ entry :: after).eraseIdx before.length = before ++ after := by
        rw [eraseIdx_append_of_length_le (le_refl _)]
        simp
      simp only [pop, nextIndex, hnonempty, hfind]
      simp [herase]

end WriteQueue

/-! ## Runs of pushes and pops -/

/-- A frame's identity in a run: the number of frames pushed before it, and what was pushed. -/
abbrev Numbered (T : Type) := ℕ × T

/-- The entry's place in push order. -/
def Entry.number {T : Type} (entry : Entry (Numbered T)) : ℕ := entry.item.1

inductive QueueOp (T : Type) where
  | push (item : T) (tag : UInt8) (key : FrameKey)
  | pop
  deriving DecidableEq

/-- The queue with what was pushed into it and what has left it, in order. -/
structure QueueTrace (T : Type) where
  queue : WriteQueue (Numbered T) := {}
  pushed : List (Entry (Numbered T)) := []
  left : List (Numbered T) := []

namespace QueueTrace

variable {T : Type} {trace : QueueTrace T}

def step (trace : QueueTrace T) : QueueOp T → QueueTrace T
  | .push item tag key =>
    let numbered := (trace.pushed.length, item)
    { trace with
      queue := trace.queue.push numbered tag key
      pushed := trace.pushed ++ [⟨numbered, tag, key⟩] }
  | .pop =>
    { trace with
      queue := trace.queue.pop.2
      left := trace.left ++ trace.queue.pop.1.toList }

def run (ops : List (QueueOp T)) : QueueTrace T := Steps.run step {} ops

/-- What it takes for `later`, which left when only `past` had left, to overtake
the `earlier` frame. -/
structure Overtakes (pushed : List (Entry (Numbered T))) (past : List (Numbered T))
    (later earlier : Entry (Numbered T)) : Prop where
  control : later.control = true
  target : later.key.target ≠ earlier.key.target
  notCall : earlier.tag ≠ sessionCallTag
  held : earlier.control = true → ∃ blocking ∈ pushed,
    blocking.number < earlier.number ∧ blocking.item ∉ past ∧ earlier.heldBy blocking = true

/-- What a run of pushes and pops keeps: the waiting frames are the pushed ones
that have not left, in push order, and a frame that left before an earlier one
was entitled to. -/
structure Ordered (trace : QueueTrace T) : Prop where
  numbered : trace.pushed.map Entry.number = List.range trace.pushed.length
  waiting : trace.queue.entries.Sublist trace.pushed
  once : (trace.left ++ trace.queue.entries.map (·.item)).Perm (trace.pushed.map (·.item))
  overtakes : ∀ past later rest earlier, later ∈ trace.pushed → earlier ∈ trace.pushed →
    trace.left = past ++ later.item :: rest → earlier.number < later.number →
    earlier.item ∉ past → Overtakes trace.pushed past later earlier

namespace Ordered

section

variable (h : trace.Ordered) {entry : Entry (Numbered T)}
include h

lemma sorted : trace.pushed.Pairwise fun first second => first.number < second.number := by
  have hrange := pairwise_lt_range (n := trace.pushed.length)
  rw [← h.numbered] at hrange
  exact pairwise_map.mp hrange

lemma nodup : (trace.pushed.map (·.item)).Nodup := by
  apply List.Nodup.of_map Prod.fst
  have hnumbers : (trace.pushed.map (·.item)).map Prod.fst = trace.pushed.map Entry.number := by
    simp [Entry.number, Function.comp_def]
  rw [hnumbers, h.numbered]
  exact nodup_range

/-- A pushed frame is known by its number and item. -/
lemma eq_of_item {first second : Entry (Numbered T)}
    (hfirst : first ∈ trace.pushed) (hsecond : second ∈ trace.pushed)
    (heq : first.item = second.item) : first = second :=
  inj_on_of_nodup_map h.nodup hfirst hsecond heq

lemma mem_queue (hmem : entry ∈ trace.pushed)
    (hstays : entry.item ∉ trace.left) : entry ∈ trace.queue.entries := by
  have hitem : entry.item ∈ trace.left ++ trace.queue.entries.map (·.item) :=
    h.once.symm.subset (mem_map_of_mem hmem)
  rcases mem_append.mp hitem with hleft | hqueue
  · exact absurd hleft hstays
  · obtain ⟨other, hother, heq⟩ := mem_map.mp hqueue
    rwa [← h.eq_of_item (h.waiting.subset hother) hmem heq]

lemma not_mem_left (hmem : entry ∈ trace.queue.entries) : entry.item ∉ trace.left := by
  have hnodup :
      (trace.left ++ trace.queue.entries.map (·.item)).Nodup := h.once.nodup_iff.mpr h.nodup
  intro hleft
  exact (nodup_append.mp hnodup).2.2 _ hleft _ (mem_map_of_mem hmem) rfl

lemma number_lt (hmem : entry ∈ trace.pushed) : entry.number < trace.pushed.length := by
  have hnumber := mem_map_of_mem (f := Entry.number) hmem
  rw [h.numbered] at hnumber
  exact mem_range.mp hnumber

/-- The entry a pop takes overtakes every earlier frame that still waits. -/
lemma overtakes_of_next {before after : List (Entry (Numbered T))}
    {entry earlier : Entry (Numbered T)} (hsplit : trace.queue.entries = before ++ entry :: after)
    (hnext : WriteQueue.Next before entry) (hmem : earlier ∈ trace.pushed)
    (hlt : earlier.number < entry.number) (hstays : earlier.item ∉ trace.left) :
    Overtakes trace.pushed trace.left entry earlier := by
  have hsorted := h.sorted.sublist h.waiting
  rw [hsplit] at hsorted
  obtain ⟨hbeforeSorted, hafter, -⟩ := pairwise_append.mp hsorted
  have hbefore : earlier ∈ before := by
    have hqueue := h.mem_queue hmem hstays
    rw [hsplit] at hqueue
    rcases mem_append.mp hqueue with hbefore | hrest
    · exact hbefore
    · rcases mem_cons.mp hrest with rfl | hlater
      · omega
      · have := (pairwise_cons.mp hafter).1 earlier hlater
        omega
  have hfree := Bool.eq_false_iff.mp (hnext.free earlier hbefore)
  rw [Ne, Entry.heldBy_eq_true, not_or] at hfree
  refine ⟨hnext.control (ne_nil_of_mem hbefore), fun heq => hfree.2 heq.symm, hfree.1, ?_⟩
  intro hcontrol
  obtain ⟨early, late, heq⟩ := append_of_mem hbefore
  obtain ⟨blocking, hblocking, hheld⟩ := hnext.held early earlier late heq hcontrol
  have hwaits : blocking ∈ trace.queue.entries := by
    rw [hsplit, heq]
    simp [hblocking]
  rw [heq] at hbeforeSorted
  exact ⟨blocking, h.waiting.subset hwaits,
    (pairwise_append.mp hbeforeSorted).2.2 _ hblocking _ mem_cons_self,
    h.not_mem_left hwaits, hheld⟩

lemma push (item : T) (tag : UInt8) (key : FrameKey) :
    (trace.step (.push item tag key)).Ordered := by
  refine ⟨?_, ?_, ?_, ?_⟩
  · simp [step, h.numbered, Entry.number, range_succ]
  · exact h.waiting.append (.refl _)
  · simpa [step, WriteQueue.push] using h.once.append_right [(trace.pushed.length, item)]
  · intro past later rest earlier hlater hearlier hleft hlt hstays
    have hlaterOld : later ∈ trace.pushed := by
      rcases mem_append.mp hlater with hold | hnew
      · exact hold
      · -- the frame just pushed has not left
        have hitem : later.item ∈ trace.left := by
          rw [show trace.left = _ from hleft]
          simp
        obtain rfl := mem_singleton.mp hnew
        have hpushed := h.once.subset (mem_append_left _ hitem)
        obtain ⟨other, hother, heq⟩ := mem_map.mp hpushed
        have hnumber := h.number_lt hother
        simp [Entry.number, heq] at hnumber
    have hearlierOld : earlier ∈ trace.pushed := by
      rcases mem_append.mp hearlier with hold | hnew
      · exact hold
      · obtain rfl := mem_singleton.mp hnew
        have hnumber := h.number_lt hlaterOld
        exact absurd hlt (Nat.lt_asymm hnumber)
    obtain ⟨hcontrol, htarget, hcall, hheld⟩ :=
      h.overtakes past later rest earlier hlaterOld hearlierOld hleft hlt hstays
    refine ⟨hcontrol, htarget, hcall, fun hc => ?_⟩
    obtain ⟨blocking, hmem, hblocking⟩ := hheld hc
    exact ⟨blocking, mem_append_left _ hmem, hblocking⟩

lemma pop : (trace.step .pop).Ordered := by
  by_cases hempty : trace.queue.entries = []
  · have hsame : trace.step .pop = trace := by
      simp [step, WriteQueue.pop, WriteQueue.nextIndex, hempty]
    rwa [hsame]
  obtain ⟨before, entry, after, hsplit, hnext, hpop⟩ := WriteQueue.pop_split hempty
  have hmem : entry ∈ trace.pushed := h.waiting.subset (by rw [hsplit]; simp)
  have hstep : trace.step .pop =
      { trace with queue := ⟨before ++ after⟩, left := trace.left ++ [entry.item] } := by
    simp [step, hpop]
  rw [hstep]
  refine ⟨h.numbered, ?_, ?_, ?_⟩
  · apply List.Sublist.trans _ h.waiting
    rw [hsplit]
    exact (List.Sublist.refl before).append (sublist_cons_self entry after)
  · have hperm := h.once
    rw [hsplit] at hperm
    refine List.Perm.trans ?_ hperm
    simp only [map_append, map_cons, append_assoc, singleton_append]
    apply List.Perm.append_left
    exact perm_middle.symm
  · intro past later rest earlier hlater hearlier hleft hlt hstays
    change trace.left ++ [entry.item] = past ++ later.item :: rest at hleft
    rcases eq_nil_or_concat rest with rfl | ⟨shorter, last, rfl⟩
    · -- `later` is the frame that has just left
      obtain ⟨rfl, hitem⟩ := append_inj' hleft rfl
      have heq : entry = later := h.eq_of_item hmem hlater (cons_eq_cons.mp hitem).1
      subst heq
      exact h.overtakes_of_next hsplit hnext hearlier hlt hstays
    · have hold : trace.left = past ++ later.item :: shorter := by
        rw [concat_eq_append, ← cons_append, ← append_assoc] at hleft
        exact (append_inj' hleft rfl).1
      exact h.overtakes past later shorter earlier hlater hearlier hold hlt hstays

end

lemma init : (Ordered ({} : QueueTrace T)) := by
  refine ⟨rfl, .refl _, List.Perm.refl _, ?_⟩
  intro past later rest earlier hlater
  cases hlater

end Ordered

lemma run_ordered (ops : List (QueueOp T)) : (run ops).Ordered := by
  apply Steps.run_induction Ordered.init
  intro trace op h
  cases op with
  | push item tag key => exact h.push item tag key
  | pop => exact h.pop

/-- Each pop takes one frame out, so as many pops as frames wait empty the queue. -/
lemma drain_empty (trace : QueueTrace T) (pops : ℕ) (h : trace.queue.len ≤ pops) :
    (Steps.run step trace (replicate pops .pop)).queue.entries = [] := by
  induction pops generalizing trace with
  | zero => exact eq_nil_of_length_eq_zero (Nat.le_zero.mp h)
  | succ pops ih =>
    rw [replicate_succ, Steps.run_cons]
    apply ih
    by_cases hempty : trace.queue.entries = []
    · simp [step, WriteQueue.len, WriteQueue.pop, WriteQueue.nextIndex, hempty]
    · obtain ⟨before, entry, after, hsplit, -, hpop⟩ := WriteQueue.pop_split hempty
      simp only [WriteQueue.len, hsplit, length_append, length_cons] at h
      simp only [step, hpop, WriteQueue.len, length_append]
      omega

/-- Popping adds no frame. -/
lemma drain_pushed (trace : QueueTrace T) (pops : ℕ) :
    (Steps.run step trace (replicate pops .pop)).pushed = trace.pushed := by
  induction pops generalizing trace with
  | zero => rfl
  | succ pops ih =>
    rw [replicate_succ, Steps.run_cons, ih]
    rfl

/-- Once the waiting frames are popped, exactly the pushed frames have left. -/
lemma drained_perm (ops : List (QueueOp T)) :
    (run (ops ++ replicate (run ops).queue.len .pop)).left.Perm
      ((run ops).pushed.map (·.item)) := by
  have hrun : run (ops ++ replicate (run ops).queue.len .pop) =
      Steps.run step (run ops) (replicate (run ops).queue.len .pop) := Steps.run_append ..
  have honce := (run_ordered (ops ++ replicate (run ops).queue.len .pop)).once
  rw [hrun] at honce ⊢
  rw [drain_empty _ _ (le_refl _), drain_pushed] at honce
  simpa using honce

/-- Over every run of pushes and pops, with any tags, classes and targets: each
pushed frame leaves exactly once, and once the waiting frames are popped all
have left. Frames of one target leave in push order, nothing overtakes a
`SessionCall`, and ordinary frames keep their order. A frame that leaves before
an earlier one is a control frame of another target, and the earlier one is
ordinary or is held back by a frame that waits before it. -/
theorem frames_leave_in_order (ops : List (QueueOp T)) :
    (run ops).pushed.map Entry.number = List.range (run ops).pushed.length ∧
    ((run ops).left ++ (run ops).queue.entries.map (·.item)).Perm
      ((run ops).pushed.map (·.item)) ∧
    (run (ops ++ List.replicate (run ops).queue.len .pop)).left.Perm
      ((run ops).pushed.map (·.item)) ∧
    ∀ past later rest earlier, later ∈ (run ops).pushed → earlier ∈ (run ops).pushed →
      (run ops).left = past ++ later.item :: rest → earlier.number < later.number →
      (later.key.target = earlier.key.target → earlier.item ∈ past) ∧
      (earlier.tag = sessionCallTag → earlier.item ∈ past) ∧
      (later.key.cls = .ordinary → earlier.key.cls = .ordinary → earlier.item ∈ past) ∧
      (earlier.item ∉ past →
        later.key.cls = .control ∧ later.key.target ≠ earlier.key.target ∧
        earlier.tag ≠ sessionCallTag ∧
        (earlier.key.cls = .ordinary ∨
          earlier.key.cls = .control ∧ ∃ blocking ∈ (run ops).pushed,
            blocking.number < earlier.number ∧ blocking.item ∉ past ∧
            (blocking.tag = sessionCallTag ∨
              blocking.key.target = earlier.key.target))) := by
  have h := run_ordered ops
  refine ⟨h.numbered, h.once, drained_perm ops, ?_⟩
  intro past later rest earlier hlater hearlier hleft hlt
  have hovertakes := h.overtakes past later rest earlier hlater hearlier hleft hlt
  refine ⟨?_, ?_, ?_, ?_⟩
  · intro htarget
    by_contra hstays
    exact (hovertakes hstays).target htarget
  · intro hcall
    by_contra hstays
    exact (hovertakes hstays).notCall hcall
  · intro hordinary _
    by_contra hstays
    have hcontrol := (hovertakes hstays).control
    simp [Entry.control, hordinary] at hcontrol
  · intro hstays
    obtain ⟨hcontrol, htarget, hcall, hheld⟩ := hovertakes hstays
    refine ⟨by simpa [Entry.control] using hcontrol, htarget, hcall, ?_⟩
    cases hclass : earlier.key.cls with
    | ordinary => exact Or.inl rfl
    | control =>
      obtain ⟨blocking, hmem, hbefore, hwaits, hblocks⟩ := hheld (by simp [Entry.control, hclass])
      exact Or.inr ⟨rfl, blocking, hmem, hbefore, hwaits, Entry.heldBy_eq_true.mp hblocks⟩

-- a cancel of stream 9 overtakes the data of stream 7, and stream 7's own control frame waits
example :
    (run [.push "data 7" 16 ⟨.ordinary, 7⟩, .push "window 7" 17 ⟨.control, 7⟩,
      .push "cancel 9" 17 ⟨.control, 9⟩, .pop, .pop, .pop]).left =
      [(2, "cancel 9"), (0, "data 7"), (1, "window 7")] := by decide

end QueueTrace

end GwzCore.SessionChannel
