import GwzCore.SessionChannel.WriteQueue

/-!
# Admission to a stream carrier's writer

Frames wait for the writer on two lanes, each bounded by a number of frames. All
of them share one count of bytes: data is refused above `queueBytes`, control
above that and its reserve, and an empty queue takes a frame of any size.
-/
namespace GwzCore.Carrier
open List Nat Steps

open SessionContract SessionChannel

/-- Which lane of a carrier's queue a message takes. -/
inductive Lane where
  | data
  | control
  deriving DecidableEq

/-- Neither lane is without room, and their sum does not overflow. -/
structure CarrierLimits where
  dataFrames : ℕ
  controlReserve : ℕ
  data_pos : 0 < dataFrames
  control_pos : 0 < controlReserve
  capacity_le : dataFrames + controlReserve ≤ usizeMax

def CarrierLimits.capacity (limits : CarrierLimits) : Lane → ℕ
  | .data => limits.dataFrames
  | .control => limits.controlReserve

/-- The most bytes the writer's queue holds for the data lane, a single larger
frame aside. -/
def queueBytes : ℕ := 8 * 1024 * 1024

/-- The bytes above `queueBytes` that only the control lane may use: data bytes
never keep a control frame from being accepted. -/
def controlQueueBytes : ℕ := 1024 * 1024

/-- A frame queued for the writer. -/
structure Outgoing where
  frame : Frame
  lane : Lane
  key : FrameKey

/-- The writer's queue and its counts. -/
structure Outbound where
  out : WriteQueue Outgoing := {}
  outLanes : Lane → ℕ := fun _ => 0
  outBytes : ℕ := 0

namespace Outbound

def fitsOut (q : Outbound) (bytes limit : ℕ) : Bool :=
  q.out.entries.isEmpty || q.outBytes + bytes ≤ limit

/-- The frame at the end of the queue, counted. -/
def push (q : Outbound) (frame : Frame) (lane : Lane) (key : FrameKey) : Outbound where
  out := q.out.push ⟨frame, lane, key⟩ frame.tag key
  outLanes := Function.update q.outLanes lane (q.outLanes lane + 1)
  outBytes := q.outBytes + frame.size

/-- The writer takes its next frame. -/
def pop (q : Outbound) : Outbound :=
  match q.out.pop with
  | (none, _) => q
  | (some outgoing, out) =>
    { out := out
      outLanes := Function.update q.outLanes outgoing.lane (q.outLanes outgoing.lane - 1)
      outBytes := q.outBytes - outgoing.frame.size }

end Outbound

/-- How the writer is to finish when the carrier ends. -/
inductive Ending where
  | flush
  | refuse
  | abort

/-- What an end's writer reads of its state; `R` are the reasons a carrier ends for. -/
structure State (R : Type) extends Outbound where
  closed : Option R := none
  peerEnded : Option R := none
  peerFinal : Bool := false

/-- Why a frame is not queued. It comes back. -/
inductive Admission (R : Type) where
  | full (frame : Frame)
  | pressed (frame : Frame)
  | closed (frame : Frame) (reason : R)

variable {R : Type} {limits : CarrierLimits} {s : State R} {q : Outbound} {frame : Frame}
  {lane : Lane} {key : FrameKey}

/-- Why nothing more can be sent: this end's end, or the peer's. -/
def State.gone (s : State R) : Option R := s.closed.or s.peerEnded

/-- The bytes that the queue may hold with a frame of the lane. -/
def Lane.limit : Lane → ℕ
  | .data => queueBytes
  | .control => queueBytes + controlQueueBytes

/-- Queues `frame` for the writer on `lane`, or says why not. -/
def admitFrame (limits : CarrierLimits) (s : State R) (frame : Frame) (lane : Lane)
    (key : FrameKey) : Except (Admission R) (State R) :=
  match s.gone with
  | some reason => .error (.closed frame reason)
  | none =>
    if limits.capacity lane ≤ s.outLanes lane then .error (.full frame)
    else if s.fitsOut frame.size lane.limit then .ok { s with toOutbound := s.push frame lane key }
    else .error (.pressed frame)

/-- Ends this end for `reason` unless it has ended. An end that does not flush
drops what is queued. -/
def finish (s : State R) (reason : R) (ending : Ending) : State R :=
  if s.closed.isSome then s
  else match ending with
    | .flush => { s with closed := some reason }
    | .refuse | .abort => { s with closed := some reason, toOutbound := {} }

/-- The peer has ended, by its announcement or without one; `last` says that all
it will send has arrived. -/
def peerEnded (s : State R) (reason : R) (announcement last : Bool) : State R :=
  if s.closed.isSome || s.peerFinal then s
  else if s.peerEnded.isNone then
    { s with peerEnded := some reason, peerFinal := last, toOutbound := {} }
  else if announcement then { s with peerEnded := some reason, peerFinal := last }
  else { s with peerFinal := last }

/-- A frame that a caller asks to send, or the reason its own check ends the
carrier for: `queue_frame` checks a frame's tag and body, `try_send` encodes a
message. A paced sender offers a frame again once the writer has taken others. -/
def offer (limits : CarrierLimits) (s : State R) (checked : Except R Frame) (lane : Lane)
    (key : FrameKey) : State R :=
  match checked with
  | .error reason => finish s reason .flush
  | .ok frame =>
    match admitFrame limits s frame lane key with
    | .ok s' => s'
    | .error _ => s

inductive Label (R : Type) where
  | offer (checked : Except R Frame) (lane : Lane) (key : FrameKey)
  | writes
  | finish (reason : R) (ending : Ending)
  | peerEnded (reason : R) (announcement last : Bool)

def step (limits : CarrierLimits) (s : State R) : Label R → State R
  | .offer checked lane key => offer limits s checked lane key
  | .writes => { s with toOutbound := s.pop }
  | .finish reason ending => finish s reason ending
  | .peerEnded reason announcement last => peerEnded s reason announcement last

/-- The label offers no data frame above the data lane's bytes. -/
def modest : Label R → Bool
  | .offer (.ok frame) .data _ => frame.size ≤ queueBytes
  | _ => true

/-! ## What is queued -/

def totalBytes (entries : List (Entry Outgoing)) : ℕ := (entries.map (·.item.frame.size)).sum

attribute [local simp] totalBytes

namespace Outbound

/-- The entries queued on a lane. -/
def queuedOn (q : Outbound) (lane : Lane) : List (Entry Outgoing) :=
  q.out.entries.filter (·.item.lane = lane)

attribute [local simp] queuedOn

/-- The counts are those of the queue. -/
structure Exact (q : Outbound) : Prop where
  bytes : q.outBytes = totalBytes q.out.entries
  lanes : ∀ lane, q.outLanes lane = (q.queuedOn lane).length

lemma totalBytes_lanes (q : Outbound) :
    totalBytes q.out.entries =
      totalBytes (q.queuedOn .data) + totalBytes (q.queuedOn .control) := by
  unfold queuedOn
  induction q.out.entries with
  | nil => rfl
  | cons entry rest ih =>
    simp only [totalBytes, map_cons, sum_cons, filter_cons] at ih ⊢
    cases entry.item.lane <;> simp <;> omega

/-- A pop finds nothing, or takes one entry out of the queue. -/
lemma pop_cases (q : Outbound) :
    q.pop = q ∨ ∃ before entry after, q.out.entries = before ++ entry :: after ∧ q.pop =
      { out := ⟨before ++ after⟩
        outLanes := Function.update q.outLanes entry.item.lane (q.outLanes entry.item.lane - 1)
        outBytes := q.outBytes - entry.item.frame.size } := by
  by_cases hne : q.out.entries = []
  · left
    simp [pop, WriteQueue.pop, WriteQueue.nextIndex, hne]
  · obtain ⟨before, entry, after, hentries, -, hpop⟩ := WriteQueue.pop_split hne
    exact .inr ⟨before, entry, after, hentries, by simp [pop, hpop]⟩

lemma Exact.push (h : q.Exact) : (q.push frame lane key).Exact := by
  constructor
  · simp [Outbound.push, WriteQueue.push, h.bytes]
  · intro other
    by_cases hlane : lane = other
    · subst hlane
      simp [Outbound.push, WriteQueue.push, h.lanes]
    · simp [Outbound.push, WriteQueue.push, h.lanes, hlane, Ne.symm hlane]

lemma Exact.pop (h : q.Exact) : q.pop.Exact := by
  rcases pop_cases q with hsame | ⟨before, entry, after, hentries, hpop⟩
  · rwa [hsame]
  · rw [hpop]
    constructor
    · simp [h.bytes, hentries]
      omega
    · intro other
      by_cases hlane : entry.item.lane = other
      · subst hlane
        simp [h.lanes, hentries]
      · simp [h.lanes, hentries, hlane, Ne.symm hlane]

/-- A frame that fits leaves data within its bytes, unless it is a larger one. -/
lemma data_push (h : q.Exact) (hfits : q.fitsOut frame.size lane.limit = true)
    (hsize : lane = .data → frame.size ≤ queueBytes)
    (hdata : totalBytes (q.queuedOn .data) ≤ queueBytes) :
    totalBytes ((q.push frame lane key).queuedOn .data) ≤ queueBytes := by
  cases lane with
  | control => simpa [Outbound.push, WriteQueue.push] using hdata
  | data =>
    have htotal := q.totalBytes_lanes
    have hpushed : totalBytes ((q.push frame .data key).queuedOn .data) =
        totalBytes (q.queuedOn .data) + frame.size := by
      simp [Outbound.push, WriteQueue.push]
    rw [← h.bytes] at htotal
    rw [hpushed]
    rcases Bool.or_eq_true_iff.mp hfits with hempty | hroom
    · rw [List.isEmpty_iff] at hempty
      simpa [hempty] using hsize rfl
    · have hle : q.outBytes + frame.size ≤ queueBytes := of_decide_eq_true hroom
      omega

lemma data_pop (hdata : totalBytes (q.queuedOn .data) ≤ queueBytes) :
    totalBytes (q.pop.queuedOn .data) ≤ queueBytes := by
  rcases pop_cases q with hsame | ⟨before, entry, after, hentries, hpop⟩
  · rwa [hsame]
  · refine le_trans ?_ hdata
    simp only [hpop, queuedOn, hentries, totalBytes, filter_append, filter_cons,
      map_append, sum_append_nat]
    split <;> simp

end Outbound

/-- What a step does to the queue: it stays, is dropped, takes a frame that fits
or gives the writer its next one. -/
lemma step_outbound (limits : CarrierLimits) (s : State R) (label : Label R) :
    (step limits s label).toOutbound = s.toOutbound ∨ (step limits s label).toOutbound = {} ∨
      (step limits s label).toOutbound = s.pop ∨
      ∃ frame lane key, label = .offer (.ok frame) lane key ∧
        s.fitsOut frame.size lane.limit = true ∧
        (step limits s label).toOutbound = s.push frame lane key := by
  have hfinish : ∀ (reason : R) (ending : Ending), (finish s reason ending).toOutbound =
      s.toOutbound ∨ (finish s reason ending).toOutbound = {} := by
    intro reason ending
    unfold finish
    split
    · exact .inl rfl
    · cases ending <;> simp
  cases label with
  | offer checked lane key =>
    cases checked with
    | error reason => exact (hfinish reason .flush).imp_right .inl
    | ok frame =>
      simp only [step, offer, admitFrame]
      cases s.gone with
      | some reason => exact .inl rfl
      | none =>
        by_cases hfull : limits.capacity lane ≤ s.outLanes lane
        · simp [hfull]
        · by_cases hfits : s.fitsOut frame.size lane.limit = true <;> simp [hfull, hfits]
  | writes => exact .inr (.inr (.inl rfl))
  | finish reason ending => exact (hfinish reason ending).imp_right .inl
  | peerEnded reason announcement last =>
    simp only [step, peerEnded]
    split_ifs <;> simp

lemma exact_step (label : Label R) (h : s.Exact) : (step limits s label).Exact := by
  rcases step_outbound limits s label with heq | heq | heq | ⟨_, _, _, -, -, heq⟩
  · exact heq ▸ h
  · exact heq ▸ ⟨rfl, fun _ => rfl⟩
  · exact heq ▸ h.pop
  · exact heq ▸ h.push

lemma data_step (label : Label R) (h : s.Exact) (hmodest : modest label = true)
    (hdata : totalBytes (s.queuedOn .data) ≤ queueBytes) :
    totalBytes ((step limits s label).queuedOn .data) ≤ queueBytes := by
  rcases step_outbound limits s label with heq | heq | heq | ⟨frame, lane, key, rfl, hfits, heq⟩
  · rwa [heq]
  · rw [heq]
    exact zero_le _
  · rw [heq]
    exact Outbound.data_pop hdata
  · rw [heq]
    refine Outbound.data_push h hfits ?_ hdata
    rintro rfl
    simpa [modest] using hmodest

lemma exact_run (limits : CarrierLimits) (labels : List (Label R)) :
    (run (step limits) {} labels).Exact :=
  run_induction (P := fun s : State R => s.Exact) ⟨rfl, fun _ => rfl⟩
    (fun _ label h => exact_step label h) labels

lemma data_run {labels : List (Label R)} (hmodest : ∀ label ∈ labels, modest label = true) :
    totalBytes ((run (step limits) {} labels).queuedOn .data) ≤ queueBytes := by
  induction labels using List.reverseRecOn with
  | nil => exact zero_le _
  | append_singleton labels label ih =>
    rw [run_concat]
    exact data_step label (exact_run limits labels) (hmodest label (by simp))
      (ih fun other hother => hmodest other (by simp [hother]))

/-- The counts of every run are those of its queue. Where no data frame above
the data lane's bytes is offered, a control frame comes back from an end that has
not ended only when its own lane is full: of frames, or of the reserve's bytes. -/
theorem control_reserve_kept (limits : CarrierLimits) (labels : List (Label R)) (s : State R)
    (hrun : s = Steps.run (step limits) {} labels) :
    s.Exact ∧ ((∀ label ∈ labels, modest label = true) →
      ∀ (frame : Frame) (key : FrameKey) (refusal : Admission R), s.gone = none →
        admitFrame limits s frame .control key = .error refusal →
          limits.controlReserve ≤ (s.queuedOn .control).length ∨
            controlQueueBytes < totalBytes (s.queuedOn .control) + frame.size) := by
  have hexact : s.Exact := hrun ▸ exact_run limits labels
  refine ⟨hexact, ?_⟩
  intro hmodest frame key refusal hgone hrefused
  have hdata : totalBytes (s.queuedOn .data) ≤ queueBytes := hrun ▸ data_run hmodest
  have htotal := s.totalBytes_lanes
  rw [← hexact.bytes] at htotal
  simp only [admitFrame, hgone] at hrefused
  split_ifs at hrefused with hfull hfits
  · left
    rw [← hexact.lanes]
    exact hfull
  · right
    have hover : ¬ s.outBytes + frame.size ≤ queueBytes + controlQueueBytes :=
      fun hle => hfits (by simp [Outbound.fitsOut, Lane.limit, hle])
    omega

namespace Sample

def narrow : CarrierLimits :=
  ⟨1, 1, one_pos, one_pos, le_of_ble_eq_true rfl⟩

def plain : FrameKey := ⟨.ordinary, 0⟩

def reply : Frame := ⟨2, []⟩

/-- The end's first frame is queued. -/
def queued (frame : Frame) (lane : Lane) : State Unit :=
  Steps.run (step narrow) {} [.offer (.ok frame) lane plain]

/-- A data frame is queued, then a control frame. -/
def crowded : State Unit :=
  Steps.run (step narrow) {} [.offer (.ok reply) .data plain, .offer (.ok reply) .control plain]

end Sample

open Sample in
/-- A second control frame comes back from the full control lane. -/
theorem control_reserve_kept_full :
    (crowded.queuedOn .data).length = 1 ∧
    admitFrame narrow crowded reply .control plain = .error (.full reply) ∧
      (narrow.controlReserve ≤ (crowded.queuedOn .control).length ∨
        controlQueueBytes < totalBytes (crowded.queuedOn .control) + reply.size) :=
  ⟨rfl, rfl, (control_reserve_kept narrow _ _ rfl).2 (by decide) reply plain _ rfl rfl⟩

lemma size_replicate {n : ℕ} (h : n < usizeMax) : Frame.size ⟨2, List.replicate n 0⟩ = n + 1 := by
  simp only [Frame.size, length_replicate]
  omega

open Sample in
/-- A data frame of nine mebibytes, alone in the queue, keeps the first control
frame out. -/
theorem large_data_keeps_control_out :
    ∃ large : Frame, large.size ≤ maxFrameBytes ∧ (queued large .data).gone = none ∧
      admitFrame narrow (queued large .data) reply .control plain = .error (.pressed reply) ∧
      ¬ (narrow.controlReserve ≤ ((queued large .data).queuedOn .control).length ∨
        controlQueueBytes <
          totalBytes ((queued large .data).queuedOn .control) + reply.size) := by
  obtain ⟨large, hsize⟩ : ∃ large : Frame, large.size = 9437184 + 1 :=
    ⟨_, size_replicate (by decide)⟩
  have hnone : (queued large .data).queuedOn .control = [] := rfl
  have hroom : ¬ narrow.capacity .control ≤ (queued large .data).outLanes .control :=
    not_succ_le_zero 0
  have hfits : (queued large .data).fitsOut reply.size Lane.control.limit = false := by
    show decide (0 + large.size + 1 ≤ 9437184) = false
    rw [hsize]
    rfl
  refine ⟨large, by simp [hsize, maxFrameBytes], rfl, ?_, by rw [hnone]; decide⟩
  have hgone : (queued large .data).gone = none := rfl
  simp only [admitFrame, hgone, if_neg hroom, hfits, Bool.false_eq_true, if_false]

end GwzCore.Carrier
