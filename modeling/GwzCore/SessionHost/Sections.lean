import GwzCore.SessionHost.Acts

/-!
# Every section is a chain of acts

For each function of the table, the chain of acts it performs, the workers it
creates and the replies it returns. The proofs follow the functions; no
invariant is used except where admission evicts, which needs the table's entry
count to be right.
-/
namespace GwzCore.SessionHost
open SessionContract List FiniteMap Nat State
variable {F : Type} {record : Record F} {callId id index : ℕ} {s s' : State F} {inner : Inner F}
  {ctx : Context} {spawn : Spawn} {t u : Table F} {call : Call} {before : List ℕ}
  {operationId : String} {blocked : List String} {resolved : Resolved}

attribute [local simp] Table.answer State.liveDetached

namespace State

/-- A live detached worker runs on the workspace. -/
def occupied (s : State F) (workspace : String) : Prop :=
  ∃ marker, (workspace, marker) ∈ s.detached ∧ s.strong marker = true

/-- What no section of the table changes, beside the threads it adds and the
record of detached workers. -/
def frame (s : State F) : ℕ × List Outgoing × Bool × Bool × List ℕ × Finset ℕ :=
  (s.unflushed, s.sent, s.ended, s.closeStarted, s.abandoned, s.foreign)

/-- The surroundings of the table. -/
def outer (s : State F) : List (Thread F) × List (String × Marker) ×
    ℕ × List Outgoing × Bool × Bool × List ℕ × Finset ℕ :=
  (s.threads, s.detached, s.frame)

lemma occupied_of_outer (h : s'.outer = s.outer) (workspace : String) :
    s'.occupied workspace ↔ s.occupied workspace := by
  simp only [outer, frame, Prod.mk.injEq] at h
  obtain ⟨hthreads, hdetached, _, _, _, _, _, hforeign⟩ := h
  have hstrong : s'.strong = s.strong := by
    funext marker
    cases marker <;> simp [strong, hthreads, hforeign]
  simp [occupied, hdetached, hstrong]

end State

/-- A section from `s` to `s'` that returns `out`. -/
structure Section (inner : Inner F) (ctx : Context) (s : State F) (out : List Outgoing)
    (s' : State F) : Prop where
  acts : ∃ started : List Start, Acts inner ctx s.table out started s'.table ∧
    s'.threads = s.threads ++ started.map Thread.spawned
  occupied : ∀ workspace, s.occupied workspace → s'.occupied workspace
  frame : s'.frame = s.frame

namespace Section
variable {s'' : State F} {out more : List Outgoing}

lemma of_outer (hacts : Acts inner ctx s.table out [] s'.table) (houter : s'.outer = s.outer) :
    Section inner ctx s out s' where
  acts := ⟨[], hacts, by
    have hthreads : s'.threads = s.threads := congrArg Prod.fst houter
    simp [hthreads]⟩
  occupied := fun workspace h => (occupied_of_outer houter workspace).mpr h
  frame := congrArg (fun outer => outer.2.2) houter

lemma of_act (hact : Act inner ctx s.table out [] s'.table) (houter : s'.outer = s.outer) :
    Section inner ctx s out s' := of_outer (.single hact) houter

/-- A section that leaves the table as it was. -/
lemma quiet (htable : s'.table = s.table) (houter : s'.outer = s.outer) :
    Section inner ctx s [] s' := of_outer (htable ▸ .refl) houter

lemma refl (s : State F) : Section inner ctx s [] s := quiet rfl rfl

lemma trans (first : Section inner ctx s out s') (second : Section inner ctx s' more s'') :
    Section inner ctx s (out ++ more) s'' := by
  obtain ⟨started, hacts, hthreads⟩ := first.acts
  obtain ⟨workers, hmore, hthreads'⟩ := second.acts
  refine ⟨⟨started ++ workers, hacts.trans hmore, ?_⟩, ?_, ?_⟩
  · rw [hthreads', hthreads, map_append, append_assoc]
  · intro workspace h
    exact second.occupied _ (first.occupied _ h)
  · rw [second.frame, first.frame]

end Section

/-- A function of the table as a section: the state it leaves and its replies. -/
abbrev Performs (inner : Inner F) (ctx : Context) (s : State F)
    (result : State F × List Outgoing) : Prop := Section inner ctx s result.2 result.1

/-- The context of a section from `s` outside close's settling. -/
structure Context.Suits (ctx : Context) (s : State F) : Prop where
  outside : ctx.closing = false
  occupied : ∀ workspace, ctx.occupied workspace → s.occupied workspace

lemma Context.Suits.after {out : List Outgoing} (h : ctx.Suits s)
    (hsection : Section inner ctx s out s') : ctx.Suits s' :=
  ⟨h.outside, fun workspace hin => hsection.occupied workspace (h.occupied workspace hin)⟩

/-! ### Answers -/

@[simp] lemma answer_viewReply (inner : Inner F) (owner callId : ℕ) (outcome : Outcome F)
    (result : Bool) : (viewReply inner owner callId outcome result).answer = (callId, .call) := by
  unfold viewReply
  split
  · rfl
  · split <;> rfl

@[simp] lemma answer_ownReply (inner : Inner F) (callId : ℕ) (record : Record F)
    (outcome : Outcome F) :
    (ownReply inner callId record outcome).answer = (callId, record.lane) := by
  unfold ownReply
  split <;> rfl

@[simp] lemma answer_closeReply (inner : Inner F) (callId : ℕ) (report : Cleanup) :
    (closeReply inner callId report).answer = (callId, .control) := rfl

/-- A settlement's replies answer exactly the calls it answers. -/
lemma answers_settleReplies (inner : Inner F) (callId : ℕ) (record : Record F)
    (outcome : Outcome F) :
    (settleReplies inner callId record outcome).map Outgoing.answer = record.answers callId := by
  unfold settleReplies waiterReplies Record.answers
  split <;> simp [Function.comp_def]

lemma answeredOn_table (s : State F) (callId : ℕ) (lane : Lane) :
    (s.answeredOn callId lane).table = s.table.answer [(callId, lane)] := by
  unfold answeredOn table Table.answer
  cases lane
  all_goals
    congr 1
    funext l
    cases l <;> simp [unanswered]

lemma answer_nil (t : Table F) : t.answer [] = t := by simp

lemma answer_answer (t : Table F) (answers more : List (ℕ × Lane)) :
    (t.answer answers).answer more = t.answer (answers ++ more) := by
  simp [countP_append, sub_add_eq]

lemma answeredAll_table (s : State F) (callIds : List ℕ) (lane : Lane) :
    (s.answeredAll callIds lane).table =
      s.table.answer (callIds.map fun callId => (callId, lane)) := by
  unfold answeredAll
  induction callIds generalizing s with
  | nil => simp
  | cons callId rest ih =>
    rw [foldl_cons, ih, answeredOn_table, answer_answer]
    rfl

lemma answeredOn_outer (s : State F) (callId : ℕ) (lane : Lane) :
    (s.answeredOn callId lane).outer = s.outer := by
  cases lane <;> rfl

lemma answeredAll_outer (s : State F) (callIds : List ℕ) (lane : Lane) :
    (s.answeredAll callIds lane).outer = s.outer := by
  unfold answeredAll
  induction callIds generalizing s with
  | nil => rfl
  | cons callId rest ih => rw [foldl_cons, ih, answeredOn_outer]

/-! ### Settlement -/

lemma completeLog_eq (s : State F) (log : Option ℕ) :
    ∃ logs, s.completeLog log = { s with logs := logs } := by
  unfold completeLog
  split
  · exact ⟨s.logs, rfl⟩
  · split
    · exact ⟨s.logs, rfl⟩
    · exact ⟨_, rfl⟩

lemma releaseSlot_table (s : State F) (callId : ℕ) (record : Record F) :
    (s.releaseSlot callId record).table =
      { s.table with
        requests := match record.resolved with
          | some resolved =>
            if s.table.requests[resolved.requestId]? = some callId then
              s.table.requests.erase resolved.requestId
            else s.table.requests
          | none => s.table.requests
        running := if record.slot.isSome then s.table.running - 1 else s.table.running
        busy := match record.slot with
          | some (workspace, cls) =>
            s.table.busy.insert workspace ((s.table.busyOn workspace).change cls false)
          | none => s.table.busy } := by
  unfold releaseSlot Record.slot
  cases hresolved : record.resolved with
  | none => cases record.operation <;> simp
  | some resolved =>
    have htable : s.table.requests = s.requests := rfl
    by_cases hreq : s.requests[resolved.requestId]? = some callId
    all_goals
      cases hop : record.operation with
      | none =>
        simp only [htable, hreq, if_true, if_false, ite_self]
        rfl
      | some operation =>
        by_cases hphase : record.phase = .running
        all_goals
          simp only [htable, hreq, hphase, if_true, if_false]
          rfl

lemma releaseSlot_outer (s : State F) (callId : ℕ) (record : Record F) :
    (s.releaseSlot callId record).outer = s.outer := by
  unfold releaseSlot
  cases record.resolved with
  | none => rfl
  | some resolved =>
    cases record.operation with
    | none | some =>
      simp only
      split_ifs <;> rfl

lemma discard_table (hrecord : s.records[callId]? = some record) :
    (s.discard callId).table = s.table.discard callId record := by
  simp only [State.discard, hrecord]
  rfl

lemma discard_outer (s : State F) (callId : ℕ) : (s.discard callId).outer = s.outer := by
  unfold State.discard
  split <;> rfl

lemma terminate_table (s : State F) (callId : ℕ) (record : Record F) (outcome : Outcome F) :
    (s.terminate callId record outcome).table =
      { s.table.settle callId record outcome with
        unanswered := (s.table.answer (record.cancels.map (fun waiter => (waiter, Lane.control)) ++
          (record.results ++ record.responses).map (fun waiter => (waiter, Lane.call)))).unanswered
        records := s.table.records.insert callId (record.settled outcome)
        operations := s.table.operations
        tableEntries := s.table.tableEntries
        retained := s.table.retained } := by
  obtain ⟨logs, hlogs⟩ := completeLog_eq s record.events
  rw [terminate, hlogs, releaseSlot_table, answeredAll_table, answeredAll_table,
    answer_answer]
  rfl

lemma terminate_outer (s : State F) (callId : ℕ) (record : Record F) (outcome : Outcome F) :
    (s.terminate callId record outcome).outer = s.outer := by
  obtain ⟨logs, hlogs⟩ := completeLog_eq s record.events
  rw [terminate, hlogs, releaseSlot_outer, answeredAll_outer, answeredAll_outer]
  rfl

lemma settle_of_absent (outcome : Outcome F)
    (h : ∀ record, s.records[callId]? = some record → record.phase = .terminal) :
    settle inner s callId outcome = (s, []) := by
  unfold settle
  cases hrecord : s.records[callId]? with
  | none => rfl
  | some record => simp [h record hrecord]

lemma settle_replies (inner : Inner F) (outcome : Outcome F)
    (hrecord : s.records[callId]? = some record) (hphase : record.phase ≠ .terminal) :
    (settle inner s callId outcome).2 = settleReplies inner callId record outcome := by
  simp only [settle, hrecord, hphase, if_false, settleReplies]
  split <;> simp

lemma settle_outer (inner : Inner F) (s : State F) (callId : ℕ) (outcome : Outcome F) :
    (settle inner s callId outcome).1.outer = s.outer := by
  unfold settle
  cases s.records[callId]? with
  | none => rfl
  | some record =>
    simp only
    split_ifs
    · rfl
    · exact terminate_outer s callId record outcome
    · rw [discard_outer, answeredOn_outer, terminate_outer]

lemma settle_table (inner : Inner F) (outcome : Outcome F)
    (hrecord : s.records[callId]? = some record) (hphase : record.phase ≠ .terminal) :
    (settle inner s callId outcome).1.table = s.table.settle callId record outcome := by
  have hterm := terminate_table s callId record outcome
  simp only [settle, hrecord, hphase, if_false]
  by_cases hkeep : record.keeps = true
  · simp only [hkeep, if_true]
    calc { s.terminate callId record outcome with
            retained := (s.terminate callId record outcome).retained ++ [callId] }.table
        = { (s.terminate callId record outcome).table with
            retained := (s.terminate callId record outcome).table.retained ++ [callId] } := rfl
      _ = s.table.settle callId record outcome := by
        rw [hterm]
        simp [Table.settle, Record.answers, hkeep]
  · have hanswer := answeredOn_table (s.terminate callId record outcome) callId record.lane
    have hget : ((s.terminate callId record outcome).answeredOn callId record.lane).table.records[
        callId]? = some (record.settled outcome) := by
      rw [hanswer, hterm]
      simp
    simp only [hkeep]
    calc (((s.terminate callId record outcome).answeredOn callId record.lane).discard callId).table
        = ((s.terminate callId record outcome).answeredOn callId record.lane).table.discard callId
            (record.settled outcome) := discard_table hget
      _ = s.table.settle callId record outcome := by
        rw [hanswer, hterm]
        simp [Table.settle, Table.discard, Record.answers, Record.settled, hkeep,
          erase_insert_self, countP_append, sub_add_eq]

lemma settle_get_of_ne (t : Table F) (record : Record F) (outcome : Outcome F) (h : id ≠ callId) :
    (t.settle callId record outcome).records[id]? = t.records[id]? := by
  simp only [Table.settle]
  split <;> simp [Std.ExtTreeMap.getElem?_insert, Std.ExtTreeMap.getElem?_erase, h.symm]

lemma settle_get_self (t : Table F) (callId : ℕ) (record : Record F) (outcome : Outcome F) :
    (t.settle callId record outcome).records[callId]? =
      if record.keeps then some (record.settled outcome) else none := by
  simp only [Table.settle]
  split <;> simp

/-! ### The scan of the queue -/

section
variable (inner : Inner F) (ctx : Context) (s : State F) (cls : Class) (workspace : String)

lemma besideDetached_section : Section inner ctx s [] (s.besideDetached cls workspace).1 := by
  unfold besideDetached
  split
  · refine ⟨⟨[], .refl, by simp [runningOn]⟩, ?_, rfl⟩
    rintro w ⟨marker, hmem, hstrong⟩
    exact ⟨marker, by simp [runningOn, hmem, hstrong], hstrong⟩
  · exact .refl s

lemma besideDetached_table : (s.besideDetached cls workspace).1.table = s.table := by
  unfold besideDetached
  split <;> rfl

lemma besideDetached_busy :
    (s.besideDetached cls workspace).2 = true ↔ cls.exclusive = true ∧ s.occupied workspace := by
  unfold besideDetached occupied
  split
  · simp_all [runningOn]
  · simp_all

end

/-- Every entry the scan has passed has put its workspace on the blocked list. -/
def Passed (t : Table F) (blocked : List String) (index : ℕ) : Prop :=
  ∀ id ∈ t.queue.take index, ∀ record, t.records[id]? = some record → ∀ resolved,
    record.resolved = some resolved → resolved.workspace ∈ blocked

/-- No record changes what its request was resolved to. -/
def KeepsResolved (t u : Table F) : Prop :=
  ∀ (id : ℕ) (record : Record F), u.records[id]? = some record →
    ∃ former : Record F, t.records[id]? = some former ∧ former.resolved = record.resolved

lemma KeepsResolved.settle (outcome : Outcome F) (hrecord : t.records[callId]? = some record) :
    KeepsResolved t (t.settle callId record outcome) := by
  intro id found hfound
  by_cases hid : id = callId
  · subst hid
    rw [settle_get_self] at hfound
    split at hfound
    · cases hfound
      exact ⟨record, hrecord, rfl⟩
    · cases hfound
  · rw [settle_get_of_ne t record outcome hid] at hfound
    exact ⟨found, hfound, rfl⟩

lemma KeepsResolved.take (hrecord : t.records[callId]? = some record) :
    KeepsResolved t (t.take callId record) := by
  intro id found hfound
  rcases get_insert_eq_some.mp hfound with ⟨rfl, rfl⟩ | ⟨-, hother⟩
  · exact ⟨record, hrecord, rfl⟩
  · exact ⟨found, hother, rfl⟩

lemma KeepsResolved.trans {v : Table F} (h : KeepsResolved t u) (h' : KeepsResolved u v) :
    KeepsResolved t v := by
  intro id record hrecord
  obtain ⟨middle, hmiddle, heq⟩ := h' id record hrecord
  obtain ⟨former, hformer, heq'⟩ := h id middle hmiddle
  exact ⟨former, hformer, heq'.trans heq⟩

lemma Passed.of_keeps (hpassed : Passed t blocked index) (hkeeps : KeepsResolved t u)
    (hqueue : u.queue.take index = t.queue.take index) : Passed u blocked index := by
  intro id hid record hrecord resolved hresolved
  obtain ⟨former, hformer, heq⟩ := hkeeps id record hrecord
  rw [hqueue] at hid
  exact hpassed id hid former hformer resolved (heq.trans hresolved)

/-- A worker that cannot be created settles its record. -/
lemma spawnFailed_spec (inner : Inner F) (error : String)
    (hrecord : s.records[callId]? = some record) (hphase : record.phase ≠ .terminal) :
    ∃ outcome, (spawnFailed inner s callId error).1.table = s.table.settle callId record outcome ∧
      (spawnFailed inner s callId error).2 = settleReplies inner callId record outcome ∧
      (spawnFailed inner s callId error).1.outer = s.outer := by
  simp only [spawnFailed, hrecord]
  exact ⟨_, settle_table inner _ hrecord hphase, settle_replies inner _ hrecord hphase,
    settle_outer ..⟩

lemma taken_phase_ne (record : Record F) : record.taken.phase ≠ .terminal := by
  simp [Record.taken]

lemma spawnWorker_table (s : State F) (start : Start) :
    (spawnWorker s start).table =
      { s.table with trace := s.table.trace ++ [startedEvent s start] } := rfl

/-- A worker's thread is added around a table that acts brought about. -/
lemma Section.spawnWorker {start : Start}
    (hacts : Acts inner ctx s.table [] [start] (spawnWorker s' start).table)
    (houter : s'.outer = s.outer) : Section inner ctx s [] (spawnWorker s' start) := by
  have hthreads : s'.threads = s.threads := congrArg Prod.fst houter
  refine ⟨⟨[start], hacts, ?_⟩, ?_, ?_⟩
  · simp [SessionHost.spawnWorker, hthreads]
  · intro workspace h
    obtain ⟨marker, hmem, hstrong⟩ := (occupied_of_outer houter workspace).mpr h
    refine ⟨marker, hmem, ?_⟩
    cases marker with
    | own =>
      simp only [strong, SessionHost.spawnWorker, any_append, Bool.or_eq_true]
      exact .inl hstrong
    | other => exact hstrong
  · exact congrArg (fun outer => outer.2.2) houter

/-- Starting the operation of a queue entry whose slot `s'` has counted: the
worker starts, cannot be created, or finds the gate gone. -/
lemma startOperation_section (spawn : Spawn) (s' : State F) {cls : Class} {after : List ℕ}
    (hctx : ctx.closing = false) (htable : s'.table =
      { s.table.occupy resolved.workspace cls with queue := before ++ after })
    (houter : s'.outer = s.outer) (hqueue : s.table.queue = before ++ callId :: after)
    (hrecord : s.table.records[callId]? = some record)
    (hop : record.operation = some (operationId, cls)) (hresolved : record.resolved = some resolved)
    (hrunning : s.table.running < inner.limits.runningOperations)
    (hadmits : (s.table.busyOn resolved.workspace).admits cls = true)
    (hfree : cls.exclusive = true → ¬ ctx.occupied resolved.workspace)
    (hfirst : ∀ id ∈ before, ∀ other, s.table.records[id]? = some other → ∀ found,
      other.resolved = some found → found.workspace ≠ resolved.workspace) :
    Performs inner ctx s (startOperation inner spawn s' callId) ∧
      KeepsResolved s.table (startOperation inner spawn s' callId).1.table ∧
      (startOperation inner spawn s' callId).1.table.queue = before ++ after := by
  have hrecord' : s'.records[callId]? = some record :=
    (congrArg (fun t => t.records[callId]?) htable).trans hrecord
  unfold startOperation
  cases hgate : record.gate with
  | false =>
    simp only [take, hrecord', hgate, Bool.false_eq_true, if_false]
    refine ⟨.of_act ?_ houter, ?_, by rw [htable]⟩
    · rw [htable]
      exact .leak callId record operationId cls resolved before after hctx hqueue hrecord hop
        hresolved hgate hrunning hadmits
    · rw [htable]
      exact fun id found hfound => ⟨found, hfound, rfl⟩
  | true =>
    have htaken : table { s' with records := s'.records.insert callId record.taken } =
        { s.table.occupy resolved.workspace cls with queue := before ++ after }.take
          callId record := by
      rw [← htable]
      rfl
    simp only [take, hrecord', hgate, if_true, hresolved, hop, Option.map_some]
    cases spawn callId with
    | none =>
      have hresult : (spawnWorker { s' with records := s'.records.insert callId record.taken }
          ⟨callId, record.call, resolved, some operationId, false⟩).table =
          { (s.table.occupy resolved.workspace cls).take callId record with
            queue := before ++ after
            trace := s.table.trace ++ [Event.started callId resolved.workspace (some cls)] } := by
        have hevent : startedEvent { s' with records := s'.records.insert callId record.taken }
            ⟨callId, record.call, resolved, some operationId, false⟩ =
            .started callId resolved.workspace (some cls) := by
          simp [startedEvent, Record.taken, hop]
        rw [spawnWorker_table, hevent, htaken]
        rfl
      refine ⟨.spawnWorker (.single ?_) houter, ?_, by simp only [hresult]⟩
      · rw [hresult]
        exact .start callId record operationId cls resolved before after hqueue hrecord hop
          hresolved hgate hrunning hadmits hfree hfirst
      · simp only [hresult]
        exact KeepsResolved.take hrecord
    | some error =>
      obtain ⟨outcome, hsettled, hreplies, hafter⟩ := spawnFailed_spec inner error
        (show ({ s' with records := s'.records.insert callId record.taken } : State F).records[
          callId]? = some record.taken from get_insert_self _ _ _) (taken_phase_ne record)
      rw [htaken] at hsettled
      simp only [Performs, hreplies]
      refine ⟨.of_act ?_ (hafter.trans houter), ?_, by rw [hsettled]; rfl⟩
      · rw [hsettled]
        exact .startFailed callId record operationId cls resolved outcome before after hqueue
          hrecord hop hresolved hgate hrunning hadmits
      · rw [hsettled]
        have hkept : KeepsResolved s.table
            ({ s.table.occupy resolved.workspace cls with queue := before ++ after }.take callId
              record) := KeepsResolved.take hrecord
        exact hkept.trans (KeepsResolved.settle outcome (get_insert_self _ _ _))

/-- Settling a record that has not settled, with its own queue entries dropped. -/
lemma settle_section (inner : Inner F) (ctx : Context) (s s' : State F) (outcome : Outcome F)
    {queue directQueue : List ℕ} {revoked : Finset ℕ} (htable : s'.table = { s.table with
      queue := queue, directQueue := directQueue, revoked := revoked })
    (houter : s'.outer = s.outer) (hrecord : s.table.records[callId]? = some record)
    (hphase : record.phase ≠ .terminal) (hqueue : queue.Sublist s.table.queue)
    (hothers : ∀ id ∈ s.table.queue, id ≠ callId → id ∈ queue)
    (hgone : record.phase = .queued → s.table.queue.Nodup → callId ∉ queue ∨ ctx.closing = true)
    (hdirect : directQueue.Sublist s.table.directQueue)
    (hrevoked : ∀ id ∈ revoked, id ∈ s.table.revoked ∨ id = callId)
    (hkept : s.table.revoked ⊆ revoked) (hworker : record.phase = .running →
      ctx.reports callId ∨ callId ∈ revoked ∨ callId ∈ s.table.queue) :
    Section inner ctx s (settle inner s' callId outcome).2 (settle inner s' callId outcome).1 ∧
      (settle inner s' callId outcome).1.table =
        { s.table.settle callId record outcome with
          queue := queue, directQueue := directQueue, revoked := revoked } := by
  have hget : s'.records[callId]? = some record := by
    show s'.table.records[callId]? = _
    rw [htable, hrecord]
  have hsettled : (settle inner s' callId outcome).1.table =
      { s.table.settle callId record outcome with
        queue := queue, directQueue := directQueue, revoked := revoked } := by
    rw [settle_table inner outcome hget hphase, htable]
    rfl
  refine ⟨.of_act ?_ ((settle_outer ..).trans houter), hsettled⟩
  rw [hsettled, settle_replies inner outcome hget hphase]
  exact .settle callId record outcome queue directQueue revoked hrecord hphase hqueue hothers hgone
    hdirect hrevoked hkept hworker

/-- A record is settled where it stands, unless it has settled or is gone. -/
lemma settle_performs (inner : Inner F) (outcome : Outcome F)
    (hlive : ∀ record, s.records[callId]? = some record → record.phase ≠ .terminal →
      (record.phase = .queued → ctx.closing = true) ∧
        (record.phase = .running → ctx.reports callId)) :
    Performs inner ctx s (settle inner s callId outcome) := by
  by_cases hfound : ∃ record, s.records[callId]? = some record ∧ record.phase ≠ .terminal
  · obtain ⟨record, hrecord, hphase⟩ := hfound
    obtain ⟨hqueued, hrunning⟩ := hlive record hrecord hphase
    exact (settle_section inner ctx s s outcome rfl rfl hrecord hphase (.refl _)
      (fun _ hid _ => hid) (fun h _ => .inr (hqueued h)) (.refl _)
      (fun _ hid => .inl hid) (Finset.Subset.refl _) fun h => .inl (hrunning h)).1
  · push Not at hfound
    rw [settle_of_absent outcome hfound]
    exact .refl s

/-- A turn of the scan is a section, and the entries passed after it are blocked. -/
def Scans (inner : Inner F) (ctx : Context) (s : State F)
    (result : State F × List String × ℕ × List Outgoing) : Prop :=
  Section inner ctx s result.2.2.2 result.1 ∧ Passed result.1.table result.2.1 result.2.2.1

lemma Passed.drop_entry {after : List ℕ} (hpassed : Passed t blocked index)
    (hkeeps : KeepsResolved t u) (hlength : before.length = index)
    (hqueue : t.queue = before ++ callId :: after) (hqueue' : u.queue = before ++ after) :
    Passed u blocked index := by
  apply hpassed.of_keeps hkeeps
  rw [hqueue, hqueue', ← hlength]
  simp

lemma eq_take_cons_drop {ids : List ℕ} (h : ids[index]? = some id) :
    ids = ids.take index ++ id :: ids.drop (index + 1) := by
  obtain ⟨_, hat⟩ := List.getElem?_eq_some_iff.mp h
  rw [← hat, List.cons_getElem_drop_succ, List.take_append_drop]

section Scan
variable {cls : Class} {after : List ℕ}

section
variable (hlength : before.length = index) (hqueue : s.table.queue = before ++ callId :: after)
  (hrecord : s.table.records[callId]? = some record) (hpassed : Passed s.table blocked index)
include hlength hqueue hrecord hpassed

/-- An operation refused beside a detached worker; a stale entry is only dropped. -/
lemma refuseEntry_scans (outcome : Outcome F) :
    Scans inner ctx s ((settle inner { s with queue := before ++ after } callId outcome).1, blocked,
      index, (settle inner { s with queue := before ++ after } callId outcome).2) := by
  by_cases hphase : record.phase = .terminal
  · have hsame : ∀ found, s.table.records[callId]? = some found → found.phase = .terminal := by
      intro found hfound
      rw [hrecord] at hfound
      cases hfound
      exact hphase
    rw [settle_of_absent (s := { s with queue := before ++ after }) outcome hsame]
    refine ⟨.of_act (.dequeue callId before after hqueue ?_) rfl, ?_⟩
    · exact fun found hfound => .inr (.inr (hsame found hfound))
    · exact hpassed.drop_entry (fun id found hfound => ⟨found, hfound, rfl⟩) hlength hqueue rfl
  · have hgone : record.phase = .queued → s.table.queue.Nodup →
        callId ∉ before ++ after ∨ ctx.closing = true := by
      intro _ hnodup
      rw [hqueue, nodup_middle] at hnodup
      exact .inl (nodup_cons.mp hnodup).1
    obtain ⟨hsection, hresult⟩ := settle_section inner ctx s { s with queue := before ++ after }
      outcome rfl rfl hrecord hphase
      (hqueue ▸ (sublist_cons_self callId after).append_left before)
      (fun id hid hne => by simpa [hqueue, hne] using hid) hgone (.refl _)
      (fun id hid => .inl hid) (Finset.Subset.refl _) (fun _ => .inr (.inr (by simp [hqueue])))
    refine ⟨hsection, ?_⟩
    simp only [hresult]
    exact hpassed.drop_entry (KeepsResolved.settle outcome hrecord) hlength hqueue rfl

/-- An operation whose workspace is taken is passed over. -/
lemma passEntry_scans (hresolved : record.resolved = some resolved) :
    Scans inner ctx s (s, resolved.workspace :: blocked, index + 1, []) := by
  refine ⟨.refl s, ?_⟩
  intro id hid found hfound place hplace
  rw [hqueue, ← hlength] at hid
  have hsplit : id ∈ before ∨ id = callId := by
    simpa [take_append, take_of_length_le (le_succ before.length)] using hid
  rcases hsplit with hbefore | rfl
  · refine mem_cons_of_mem _ (hpassed id ?_ found hfound place hplace)
    rw [hqueue, ← hlength]
    simpa using hbefore
  · rw [hrecord] at hfound
    cases hfound
    rw [hresolved] at hplace
    cases hplace
    exact mem_cons_self

/-- A turn of the scan at the entry of an operation that was admitted. -/
lemma scheduleOperation_scans (hctx : ctx.Suits s)
    (herase : s.queue.eraseIdx index = before ++ after)
    (hop : record.operation = some (operationId, cls)) (hresolved : record.resolved = some resolved)
    (hrunning : s.table.running < inner.limits.runningOperations) :
    Scans inner ctx s (scheduleEntry inner spawn s blocked index callId) := by
  have hget : s.records[callId]? = some record := hrecord
  have hprobe := besideDetached_section inner ctx s cls resolved.workspace
  have htable := besideDetached_table s cls resolved.workspace
  have hbusy := besideDetached_busy s cls resolved.workspace
  rcases hpair : s.besideDetached cls resolved.workspace with ⟨s', busy⟩
  rw [hpair] at hprobe htable hbusy
  have herase' : s'.queue.eraseIdx index = before ++ after :=
    (congrArg (fun t : Table F => t.queue.eraseIdx index) htable).trans herase
  -- the probe has changed no part of the table
  have hafter : ∀ {result}, Scans inner ctx s' result → Scans inner ctx s result :=
    fun h => ⟨hprobe.trans h.1, h.2⟩
  rw [← htable] at hqueue hrecord hrunning hpassed
  simp only [scheduleEntry, hget, hop, hresolved, hpair, herase']
  refine hafter ?_
  cases busy with
  | true =>
    exact refuseEntry_scans hlength hqueue hrecord hpassed _
  | false =>
    simp only [Bool.false_eq_true, if_false]
    split
    · exact passEntry_scans hlength hqueue hrecord hpassed hresolved
    · rename_i hblock
      rw [not_or, not_not] at hblock
      have hfree : cls.exclusive = true → ¬ ctx.occupied resolved.workspace := by
        intro hexclusive hoccupied
        exact absurd (hbusy.mpr ⟨hexclusive, hctx.occupied _ hoccupied⟩) (by simp)
      have hfirst : ∀ id ∈ before, ∀ other, s'.table.records[id]? = some other → ∀ found,
          other.resolved = some found → found.workspace ≠ resolved.workspace := by
        intro id hid other hother found hfound heq
        refine hblock.1 (heq ▸ hpassed id ?_ other hother found hfound)
        rw [hqueue, ← hlength]
        simpa using hid
      obtain ⟨hsection, hkeeps, hrest⟩ := startOperation_section spawn { s' with
          queue := before ++ after
          running := s'.running + 1
          busy := s'.busy.insert resolved.workspace
            ((s'.busyOn resolved.workspace).change cls true) }
        hctx.outside rfl rfl hqueue hrecord hop hresolved hrunning hblock.2 hfree hfirst
      exact ⟨hsection, hpassed.drop_entry hkeeps hlength hqueue hrest⟩

end

lemma scheduleEntry_scans (hctx : ctx.Suits s) (hget : s.queue[index]? = some callId)
    (hrunning : s.running < inner.limits.runningOperations)
    (hpassed : Passed s.table blocked index) :
    Scans inner ctx s (scheduleEntry inner spawn s blocked index callId) := by
  obtain ⟨hlt, _⟩ := List.getElem?_eq_some_iff.mp hget
  have hqueue : s.table.queue = s.queue.take index ++ callId :: s.queue.drop (index + 1) :=
    eq_take_cons_drop hget
  have herase : s.queue.eraseIdx index = s.queue.take index ++ s.queue.drop (index + 1) :=
    eraseIdx_eq_take_drop_succ _ _
  have hlength : (s.queue.take index).length = index := by simp; omega
  -- an entry dropped without a settlement
  have hdrop : (∀ record, s.table.records[callId]? = some record → record.operation = none ∨
        record.resolved = none ∨ record.phase = .terminal) →
      Scans inner ctx s ({ s with queue := s.queue.eraseIdx index }, blocked, index, []) := by
    intro hgone
    refine ⟨.of_act ?_ rfl, ?_⟩
    · rw [herase]
      exact .dequeue callId _ _ hqueue hgone
    · exact hpassed.drop_entry (fun id found hfound => ⟨found, hfound, rfl⟩) hlength hqueue herase
  cases hrecord : s.records[callId]? with
  | none =>
    simp only [scheduleEntry, hrecord]
    exact hdrop (by simp [table, hrecord])
  | some record =>
    have hrecord' : s.table.records[callId]? = some record := hrecord
    by_cases hnothing : record.operation = none ∨ record.resolved = none
    · have hentry : scheduleEntry inner spawn s blocked index callId =
          ({ s with queue := s.queue.eraseIdx index }, blocked, index, []) := by
        rcases hnothing with hop | hresolved
        · simp [scheduleEntry, hrecord, hop]
        · cases hop : record.operation <;> simp [scheduleEntry, hrecord, hop, hresolved]
      rw [hentry]
      apply hdrop
      intro found hfound
      rw [hrecord'] at hfound
      cases hfound
      exact hnothing.elim .inl fun h => .inr (.inl h)
    · rw [not_or] at hnothing
      obtain ⟨⟨operationId, cls⟩, hop⟩ := Option.ne_none_iff_exists'.mp hnothing.1
      obtain ⟨resolved, hresolved⟩ := Option.ne_none_iff_exists'.mp hnothing.2
      exact scheduleOperation_scans hlength hqueue hrecord' hpassed hctx herase hop
        hresolved hrunning

lemma scheduleQueue_section (fuel : ℕ) (hctx : ctx.Suits s)
    (hpassed : Passed s.table blocked index) :
    Performs inner ctx s (scheduleQueue inner spawn fuel s blocked index) := by
  induction fuel generalizing s blocked index with
  | zero => exact .refl s
  | succ fuel ih =>
    unfold scheduleQueue
    cases hget : s.queue[index]? with
    | none => exact .refl s
    | some callId =>
      simp only
      split
      case isTrue hrunning =>
        have hscan : Scans inner ctx s (scheduleEntry inner spawn s blocked index callId) :=
          scheduleEntry_scans hctx hget hrunning hpassed
        exact hscan.1.trans (ih (hctx.after hscan.1) hscan.2)
      case isFalse => exact .refl s

end Scan

/-! ### Direct calls -/

/-- What taking the next waiting direct call does: the calls that cannot be
taken are passed over, and the first that can is taken. -/
def TakesDirect (inner : Inner F) (ctx : Context) (s : State F) :
    State F × Option Start → Prop
  | (s', none) => Acts inner ctx s.table [] [] s'.table ∧ s'.outer = s.outer
  | (s', some start) => ∃ t callId record resolved rest,
      Acts inner ctx s.table [] [] t ∧ t.directQueue = callId :: rest ∧
      t.records[callId]? = some record ∧ record.resolved = some resolved ∧
      record.gate = true ∧ s'.table = { t.take callId record with directQueue := rest } ∧
      s'.outer = s.outer ∧
      start = ⟨callId, record.call, resolved, record.operation.map Prod.fst, true⟩

lemma TakesDirect.after {result : State F × Option Start} (h : TakesDirect inner ctx s' result)
    (hact : Act inner ctx s.table [] [] s'.table) (houter : s'.outer = s.outer) :
    TakesDirect inner ctx s result := by
  rcases result with ⟨s'', _ | start⟩
  · obtain ⟨hacts, hafter⟩ := h
    exact ⟨(Acts.single hact).trans hacts, hafter.trans houter⟩
  · obtain ⟨t, callId, record, resolved, rest, hacts, hqueue, hrecord, hresolved, hgate, htable,
      hafter, hstart⟩ := h
    exact ⟨t, callId, record, resolved, rest, (Acts.single hact).trans hacts, hqueue, hrecord,
      hresolved, hgate, htable, hafter.trans houter, hstart⟩

lemma nextDirectFrom_spec (inner : Inner F) (ctx : Context) (ids : List ℕ) (s : State F)
    (hqueue : s.directQueue = ids) : TakesDirect inner ctx s (nextDirectFrom ids s) := by
  induction ids generalizing s with
  | nil =>
    have htable : table { s with directQueue := [] } = s.table := by
      rw [← hqueue]
    exact ⟨htable ▸ .refl, rfl⟩
  | cons callId rest ih =>
    cases hrecord : s.records[callId]? with
    | none =>
      simp only [nextDirectFrom, take, hrecord]
      refine .after (ih _ rfl) (.passDirect callId rest hqueue ?_) rfl
      simp [table, hrecord]
    | some record =>
      cases hgate : record.gate with
      | false =>
        simp only [nextDirectFrom, take, hrecord, hgate, Bool.false_eq_true, if_false]
        refine .after (ih _ rfl) (.passDirect callId rest hqueue ?_) rfl
        simp [table, hrecord, hgate]
      | true =>
        cases hresolved : record.resolved with
        | none =>
          have htake : take { s with directQueue := rest } callId true = ({ s with
                directQueue := rest
                records := s.records.insert callId { record with gate := false } }, none) := by
            simp [take, hrecord, hgate, hresolved]
          simp only [nextDirectFrom, htake]
          exact .after (ih _ rfl) (.ungateDirect callId record rest hqueue hrecord hresolved) rfl
        | some resolved =>
          simp only [nextDirectFrom, take, hrecord, hgate, hresolved, if_true]
          exact ⟨s.table, callId, record, resolved, rest, .refl, hqueue, hrecord, hresolved, hgate,
            rfl, rfl, rfl⟩

lemma startedEvent_taken {s'' : State F} {operationId : Option String} {direct : Bool}
    {rest : List ℕ} (htable : s''.table = { t.take callId record with directQueue := rest }) :
    startedEvent s'' ⟨callId, record.call, resolved, operationId, direct⟩ =
      .started callId resolved.workspace (record.operation.map Prod.snd) := by
  have hget : s''.records[callId]? = some record.taken := by
    show s''.table.records[callId]? = _
    rw [htable]
    exact get_insert_self _ _ _
  simp [startedEvent, hget, Record.taken]

lemma startDirect_section (inner : Inner F) (ctx : Context) (spawn : Spawn) (s : State F) :
    Performs inner ctx s (startDirect inner spawn s) := by
  have hnext := nextDirectFrom_spec inner ctx s.directQueue s rfl
  unfold startDirect nextDirect
  rcases hpair : nextDirectFrom s.directQueue s with ⟨s', _ | start⟩ <;> rw [hpair] at hnext
  · exact .of_outer hnext.1 hnext.2
  · obtain ⟨t, callId, record, resolved, rest, hacts, hqueue, hrecord, hresolved, hgate,
      htable, houter, rfl⟩ := hnext
    simp only
    cases spawn callId with
    | none =>
      refine .spawnWorker ?_ houter
      rw [spawnWorker_table, startedEvent_taken htable, htable]
      exact hacts.trans
        (.single (.startDirect callId record resolved rest hqueue hrecord hresolved hgate))
    | some error =>
      have hget : s'.table.records[callId]? = some record.taken := by
        rw [htable]
        exact get_insert_self _ _ _
      obtain ⟨outcome, hsettled, hreplies, hafter⟩ := spawnFailed_spec inner
        (s := { s' with directRunning := s'.directRunning - 1 }) error hget (taken_phase_ne record)
      have hsame : table { s' with directRunning := s'.directRunning - 1 } =
          { t with directQueue := rest }.take callId record := htable
      simp only [Performs, hreplies]
      refine .of_outer ?_ (hafter.trans houter)
      rw [hsettled, hsame]
      exact hacts.trans
        (.single
          (.startDirectFailed callId record resolved outcome rest hqueue hrecord hresolved hgate))

lemma scheduleDirect_section (inner : Inner F) (ctx : Context) (spawn : Spawn) (fuel : ℕ)
    (s : State F) : Performs inner ctx s (scheduleDirect inner spawn fuel s) := by
  induction fuel generalizing s with
  | zero => exact .refl s
  | succ fuel ih =>
    unfold scheduleDirect
    split
    · have hstart := startDirect_section inner ctx spawn
        { s with directRunning := s.directRunning + 1 }
      have hcounted : Section inner ctx s [] { s with directRunning := s.directRunning + 1 } :=
        .quiet rfl rfl
      exact (hcounted.trans hstart).trans (ih _)
    · exact .refl s

lemma schedule_section (hctx : ctx.Suits s) : Performs inner ctx s (schedule inner spawn s) := by
  have hpassed : Passed s.table [] 0 := by
    intro id hid
    simp at hid
  exact (scheduleQueue_section s.queue.length hctx hpassed).trans
    (scheduleDirect_section inner ctx spawn _ _)

/-- What is scheduled after a section belongs to it. -/
lemma Section.schedule {out : List Outgoing} (h : Section inner ctx s out s') (hctx : ctx.Suits s) :
    Section inner ctx s (out ++ (SessionHost.schedule inner spawn s').2)
      (SessionHost.schedule inner spawn s').1 :=
  h.trans (schedule_section (hctx.after h))

/-! ### Admission -/

/-- The record eviction takes: the oldest retained one with its views delivered. -/
def Table.Evictable (t : Table F) (callId : ℕ) : Prop :=
  ∃ before after record, t.retained = before ++ callId :: after ∧
    t.records[callId]? = some record ∧ record.delivered = true ∧
    ∀ id ∈ before, ∀ other, t.records[id]? = some other → other.delivered = false

lemma filter_ne_eraseIdx {ids : List ℕ} (h : ids[index]? = some id) :
    (ids.eraseIdx index).filter (· ≠ id) = ids.filter (· ≠ id) := by
  rw [eraseIdx_eq_take_drop_succ]
  conv_rhs => rw [eq_take_cons_drop h]
  simp

lemma evict_spec (s : State F) :
    (s.evict = (s, false)) ∨ ∃ callId record, s.table.Evictable callId ∧
      s.table.records[callId]? = some record ∧ s.evict.2 = true ∧
      s.evict.1.table = s.table.discard callId record ∧ s.evict.1.outer = s.outer := by
  unfold evict
  cases hfind : s.retained.findIdx? s.isDelivered with
  | none => exact .inl rfl
  | some index =>
    right
    obtain ⟨hlt, hdelivered, hbefore⟩ := findIdx?_eq_some_iff_getElem.mp hfind
    have hget : s.retained[index]? = some s.retained[index] := getElem?_eq_getElem hlt
    obtain ⟨record, hrecord, hviews⟩ : ∃ record, s.records[s.retained[index]]? = some record ∧
        record.delivered = true := by
      unfold isDelivered at hdelivered
      split at hdelivered
      · exact ⟨_, by assumption, hdelivered⟩
      · cases hdelivered
    have hfirst : ∀ id ∈ s.retained.take index, ∀ other, s.records[id]? = some other →
        other.delivered = false := by
      intro id hid other hother
      obtain ⟨j, hj, rfl⟩ := mem_take_iff_getElem.mp hid
      have hnot := hbefore j (by omega)
      simpa [isDelivered, hother] using hnot
    refine ⟨s.retained[index], record, ⟨s.retained.take index, s.retained.drop (index + 1), record,
      eq_take_cons_drop hget, hrecord, hviews, hfirst⟩, hrecord, ?_, ?_, ?_⟩
    · simp only [hget]
    · simp only [hget]
      have hdiscard := discard_table
        (show ({ s with retained := s.retained.eraseIdx index } : State F).records[
          s.retained[index]]? = some record from hrecord)
      rw [hdiscard]
      show { s.table.discard s.retained[index] record with
        retained := (s.retained.eraseIdx index).filter (· ≠ s.retained[index]) } = _
      rw [filter_ne_eraseIdx hget]
      rfl
    · simp only [hget]
      rw [discard_outer]
      rfl

section

variable (inner : Inner F) (s : State F) (callId : ℕ) (record : Record F) (operationId : String)

lemma enqueue_table (resolved : Resolved) :
    (enqueue inner s callId record operationId resolved).1.table =
      s.table.enqueue callId record resolved := by
  have hpush : ∀ u : State F, table { u with queue := u.queue ++ [callId] } =
      { u.table with queue := u.table.queue ++ [callId] } := fun _ => rfl
  by_cases hsubmit : record.call.mode = .submit
  · simp only [enqueue, Table.enqueue, hsubmit, decide_true, if_true]
    rw [hpush, answeredOn_table]
    rfl
  · simp only [enqueue, Table.enqueue, hsubmit, decide_false, Bool.false_eq_true, if_false,
      answer_nil]
    rfl

lemma enqueue_outer (resolved : Resolved) :
    (enqueue inner s callId record operationId resolved).1.outer = s.outer := by
  simp only [enqueue]
  split <;> rfl

lemma enqueue_replies (resolved : Resolved) :
    (enqueue inner s callId record operationId resolved).2.map Outgoing.answer =
      if record.call.mode = .submit then [(callId, Lane.call)] else [] := by
  by_cases hsubmit : record.call.mode = .submit <;> simp [enqueue, hsubmit]

end

/-- What admission needs of the records it may evict: they are settled, and the
table's entry count stands for them. -/
def Table.EvictsEntries (t : Table F) (limit : ℕ) : Prop :=
  ∀ (id : ℕ) (record : Record F), id ∈ t.retained → t.records[id]? = some record →
    record.phase = .terminal ∧ record.inTable = true ∧ 0 < t.tableEntries ∧ t.tableEntries ≤ limit

section
variable (hfrees : ∀ id, s.table.Evictable id → ctx.frees id)
  (hevict : s.table.EvictsEntries inner.limits.operationTable)
include hfrees hevict

lemma evict_section (hrecord : s.table.records[callId]? = some record)
    (hphase : record.phase = .received) (htrue : s.evict.2 = true) :
    Section inner ctx s [] s.evict.1 ∧ s.evict.1.table.records[callId]? = some record ∧
      s.evict.1.table.requests = s.table.requests ∧ s.evict.1.table.queue = s.table.queue ∧
      s.evict.1.table.tableEntries < inner.limits.operationTable := by
  rcases evict_spec s with hnone | ⟨id, found, hid, hfound, -, htable, houter⟩
  · rw [hnone] at htrue
    cases htrue
  · have hfree := hfrees id hid
    obtain ⟨before, after, other, hretained, hother, hdelivered, -⟩ := hid
    rw [hfound] at hother
    cases hother
    obtain ⟨hterminal, hin, hpos, hle⟩ := hevict id found (by simp [hretained]) hfound
    have hne : id ≠ callId := by
      rintro rfl
      rw [hrecord] at hfound
      cases hfound
      rw [hphase] at hterminal
      cases hterminal
    rw [htable]
    refine ⟨.of_act ?_ houter, (get_erase_of_ne _ hne).trans hrecord, rfl, rfl, ?_⟩
    · rw [htable]
      exact .evict id found before after hretained hfound hdelivered hfree
    · simp only [Table.discard, hin, if_true]
      omega

lemma admissionRefusal_section (cls : Class) (resolved : Resolved)
    (hrecord : s.table.records[callId]? = some record) (hphase : record.phase = .received) :
    Section inner ctx s [] (admissionRefusal inner s cls resolved).1 ∧
      (admissionRefusal inner s cls resolved).1.table.records[callId]? = some record ∧
      ((admissionRefusal inner s cls resolved).2 = none →
        (admissionRefusal inner s cls resolved).1.table.requests[resolved.requestId]? = none ∧
        (admissionRefusal inner s cls resolved).1.table.queue.length <
          inner.limits.queuedOperations ∧
        (admissionRefusal inner s cls resolved).1.table.tableEntries <
          inner.limits.operationTable) := by
  have hprobe := besideDetached_section inner ctx s cls resolved.workspace
  have htable := besideDetached_table s cls resolved.workspace
  rcases hpair : s.besideDetached cls resolved.workspace with ⟨s', busy⟩
  rw [hpair] at hprobe htable
  have hrecord' : s'.table.records[callId]? = some record := htable ▸ hrecord
  have hrequests : ∀ {u : State F}, u.table.requests = s.table.requests →
      ¬ s.requests.contains resolved.requestId = true →
      u.table.requests[resolved.requestId]? = none := by
    intro u hu hnot
    rw [hu]
    show s.requests[resolved.requestId]? = none
    simpa using hnot
  unfold admissionRefusal
  rw [hpair]
  simp only
  split_ifs with hrequest hbusy hqueue hentries
  · exact ⟨.refl s, hrecord, by simp⟩
  · exact ⟨hprobe, hrecord', by simp⟩
  · exact ⟨hprobe, hrecord', by simp⟩
  · rw [← htable] at hfrees hevict
    have hroom := evict_section hfrees hevict hrecord' hphase
    rcases hpair' : s'.evict with ⟨s'', _ | _⟩
    · have hsame : s'' = s' := by
        rcases evict_spec s' with hnone | ⟨_, _, -, -, htrue, -⟩
        · rw [hpair'] at hnone
          exact congrArg Prod.fst hnone
        · rw [hpair'] at htrue
          cases htrue
      subst hsame
      exact ⟨hprobe, hrecord', by simp⟩
    · rw [hpair'] at hroom
      obtain ⟨hsection, hkept, hreq, hsameQueue, hlt⟩ := hroom rfl
      refine ⟨hprobe.trans hsection, hkept, fun _ => ⟨?_, ?_, hlt⟩⟩
      · exact hrequests (hreq.trans (by rw [htable])) hrequest
      · rw [hsameQueue]
        exact lt_of_not_ge hqueue
  · refine ⟨hprobe, hrecord', fun _ => ⟨?_, lt_of_not_ge hqueue, lt_of_not_ge hentries⟩⟩
    exact hrequests (by rw [htable]) hrequest

/-- Admission of a received call whose request was resolved. -/
lemma admitResolved_section (resolved : Resolved) (hctx : ctx.Suits s)
    (hrecord : s.records[callId]? = some record) (hphase : record.phase = .received)
    (hcancelled : callId ∉ s.cancelled)
    (hsettle : ∀ (s' : State F) (outcome : Outcome F), s'.table.records[callId]? = some record →
      Performs inner ctx s' (settle inner s' callId outcome)) :
    Performs inner ctx s (admitCall inner spawn s callId (some (.ok resolved))) := by
  cases hop : record.operation with
  | none =>
    simp only [admitCall, hrecord, hphase, ne_eq, not_true_eq_false, if_false, hcancelled,
      decide_false, hop]
    have hwaits : Section inner ctx s [] { s with
        records := s.records.insert callId (record.awaiting resolved)
        directQueue := s.directQueue ++ [callId] } :=
      .of_act (.admitDirect callId record resolved hrecord hphase hop) rfl
    exact hwaits.schedule hctx
  | some operation =>
    obtain ⟨operationId, cls⟩ := operation
    obtain ⟨hrefusal, hkept, hadmitted⟩ :=
      admissionRefusal_section hfrees hevict cls resolved hrecord hphase
    simp only [admitCall, hrecord, hphase, ne_eq, not_true_eq_false, if_false, hcancelled,
      decide_false, hop]
    rcases hpair : admissionRefusal inner s cls resolved with ⟨s', _ | error⟩
    all_goals rw [hpair] at hrefusal hkept hadmitted
    · obtain ⟨hrequest, hqueue, hentries⟩ := hadmitted rfl
      have hqueued :
          Performs inner ctx s' (enqueue inner s' callId record operationId resolved) := by
        refine .of_act ?_ (enqueue_outer ..)
        rw [enqueue_table]
        exact .enqueue callId record operationId cls resolved _ hkept hphase hop hrequest hqueue
          hentries (enqueue_replies ..)
      exact (hrefusal.trans hqueued).schedule hctx
    · exact hrefusal.trans (hsettle s' _ hkept)

/-- Admission: the call is settled, waits for a direct worker, or is queued. -/
lemma admitCall_section (callId : ℕ) (resolved : Option (Except F Resolved))
    (hctx : ctx.Suits s) : Performs inner ctx s (admitCall inner spawn s callId resolved) := by
  cases hrecord : s.records[callId]? with
  | none =>
    simp only [admitCall, hrecord]
    exact .refl s
  | some record =>
    by_cases hphase : record.phase = .received
    · -- every refusal settles the received record
      have hsettle : ∀ (s' : State F) (outcome : Outcome F),
        s'.table.records[callId]? = some record →
          Performs inner ctx s' (settle inner s' callId outcome) := by
        intro s' outcome hrecord'
        refine settle_performs inner outcome fun found hfound _ => ?_
        obtain rfl : record = found := Option.some.inj (hrecord'.symm.trans hfound)
        simp [hphase]
      have hreceived : ¬ record.phase ≠ .received := not_not.mpr hphase
      by_cases hcancelled : callId ∈ s.cancelled
      · simp only [admitCall, hrecord, if_neg hreceived, hcancelled, decide_true]
        rcases resolved with _ | (failure | resolved) <;> exact hsettle s _ hrecord
      · rcases resolved with _ | (failure | resolved)
        · simp only [admitCall, hrecord, if_neg hreceived]
          exact hsettle s _ hrecord
        · simp only [admitCall, hrecord, if_neg hreceived, hcancelled, decide_false]
          exact hsettle s _ hrecord
        · exact admitResolved_section hfrees hevict resolved hctx hrecord hphase hcancelled hsettle
    · simp only [admitCall, hrecord, ne_eq, hphase, not_false_eq_true, if_true]
      exact .refl s

end

/-! ### Receipt -/

section Receipt
variable {lane : Lane}

lemma count_table (s : State F) (callId : ℕ) (lane : Lane) :
    (State.count { s with highestCall := callId } callId lane).table =
      s.table.count callId lane := by
  unfold State.count State.table Table.count
  cases lane
  all_goals
    congr 1
    funext l
    cases l <;> simp [State.unanswered]

lemma count_outer (s : State F) (callId : ℕ) (lane : Lane) :
    (count { s with highestCall := callId } callId lane).outer = s.outer := by
  cases lane <;> rfl

/-- `s'` is `s` with a new call counted. -/
structure Counted (s s' : State F) (callId : ℕ) (lane : Lane) : Prop where
  id : s.table.highestCall < callId
  table : s'.table = s.table.count callId lane
  outer : s'.outer = s.outer

lemma Counted.records (h : Counted s s' callId lane) : s'.records = s.table.records :=
  congrArg Table.records h.table

/-- A counted call that its receipt answers. -/
lemma Section.answered (h : Counted s s' callId lane) (reply : Outgoing)
    (hreply : reply.answer = (callId, lane)) :
    Section inner ctx s [reply] (s'.answeredOn callId lane) := by
  refine .of_act ?_ ((answeredOn_outer ..).trans h.outer)
  rw [answeredOn_table, h.table]
  exact .reply callId lane reply h.id hreply

/-- A counted call that waits for a record's terminal. -/
lemma Section.waits {target : ℕ} (waiter : Waiter) (h : Counted s s' callId waiter.lane)
    (hrecord : s.table.records[target]? = some record)
    (hlive : record.outcome = none ∨ record.phase ≠ .terminal) {s'' : State F}
    (htable : s''.table = { s'.table with
      records := s'.table.records.insert target (record.wait callId waiter) })
    (houter : s''.outer = s'.outer) : Section inner ctx s [] s'' := by
  refine .of_act ?_ (houter.trans h.outer)
  rw [htable, h.table]
  exact .wait callId target record waiter h.id hrecord hlive

lemma operation_eq_ok {owner : ℕ} :
    s.operation operationId = .ok owner ↔ s.operations[operationId]? = some owner := by
  unfold operation
  split
  · simp_all
  · split <;> simp_all

lemma view_section (h : Counted s s' callId .call) (operationId : String) (result : Bool) :
    Performs inner ctx s (view inner s' callId operationId result) := by
  cases hop : s'.operation operationId with
  | error error =>
    simp only [view, hop]
    exact .answered h _ rfl
  | ok owner =>
    cases hrecord : s'.records[owner]? with
    | none =>
      simp only [view, hop, hrecord]
      exact .answered h _ rfl
    | some record =>
      cases houtcome : record.outcome with
      | some outcome =>
        simp only [view, hop, hrecord, houtcome]
        exact .answered h _ (answer_viewReply ..)
      | none =>
        have hlane : (if result then Waiter.result else Waiter.response).lane = .call := by
          cases result <;> rfl
        simp only [view, hop, hrecord, houtcome]
        rw [h.records] at hrecord
        exact .waits _ (hlane ▸ h) hrecord (.inl houtcome) rfl rfl

lemma release_section (h : Counted s s' callId .call) (operationId : String)
    (hfrees : ∀ owner record, s.table.operations[operationId]? = some owner →
      s.table.records[owner]? = some record → record.phase = .terminal → ctx.frees owner) :
    Performs inner ctx s (release inner s' callId operationId) := by
  have htable := answeredOn_table s' callId .call
  rw [h.table] at htable
  cases hop : (s'.answeredOn callId .call).operation operationId with
  | error error =>
    simp only [release, hop]
    exact .answered h _ (answer_refuse ..)
  | ok owner =>
    simp only [release, hop]
    split
    · rename_i hphase
      obtain ⟨record, hrecord, hterminal⟩ := Option.map_eq_some_iff.mp hphase
      have hrecord' : s.table.records[owner]? = some record :=
        (congrArg (fun t => t.records[owner]?) htable).symm.trans hrecord
      have hindexed : s.table.operations[operationId]? = some owner :=
        (congrArg (fun t => t.operations[operationId]?) htable).symm.trans (operation_eq_ok.mp hop)
      have hfirst : Section inner ctx s [inner.reply callId .call inner.ports.released]
          (s'.answeredOn callId .call) := .answered h _ (answer_reply ..)
      refine hfirst.trans (.of_act ?_ (discard_outer ..))
      rw [discard_table hrecord]
      exact .release owner record hrecord hterminal
        (hfrees owner record hindexed hrecord' hterminal)
    · exact .answered h _ (answer_refuse ..)

lemma cancelTarget_eq_ok {target : CancelTarget} (h : cancelTarget s callId target = .ok id)
    (hrecord : s.records[id]? = none) :
    ∃ operationId : String, s.operations[operationId]? = some id := by
  unfold cancelTarget at h
  split at h
  · split_ifs at h with hge hothers hcontains
    cases h
    simp_all
  · exact ⟨_, operation_eq_ok.mp h⟩

lemma cancelWaiting_section {target : ℕ} (outcome : Outcome F) (hctx : ctx.Suits s)
    (hrecord : s.table.records[target]? = some record) (hphase : record.phase ≠ .terminal)
    (hwaits : record.phase ≠ .running) :
    Performs inner ctx s (cancelWaiting inner spawn s target outcome) :=
  (settle_section inner ctx s { s with
      queue := s.queue.filter (· ≠ target)
      directQueue := s.directQueue.filter (· ≠ target) } outcome rfl rfl hrecord hphase
    filter_sublist (fun id hid hne => mem_filter.mpr ⟨hid, by simpa using hne⟩)
    (fun _ _ => .inl (by simp)) filter_sublist (fun _ hid => .inl hid)
    (Finset.Subset.refl _) (fun hrunning => absurd hrunning hwaits)).1.schedule hctx

lemma cancel_section (h : Counted s s' callId .control) (target : CancelTarget)
    (hctx : ctx.Suits s) : Performs inner ctx s (cancel inner spawn s' callId target) := by
  have hothers : Counted s { s' with others := insert callId s'.others } callId .control :=
    ⟨h.id, h.table, h.outer⟩
  cases htarget : cancelTarget s' callId target with
  | error error =>
    simp only [cancel, htarget]
    exact .answered h _ rfl
  | ok id =>
    cases hrecord : s'.records[id]? with
    | none =>
      obtain ⟨operationId, hop⟩ := cancelTarget_eq_ok htarget hrecord
      have hop' : s.table.operations[operationId]? = some id :=
        (congrArg (fun t => t.operations[operationId]?) h.table).symm.trans hop
      simp only [cancel, htarget, hrecord]
      rw [h.records] at hrecord
      refine .of_act ?_ hothers.outer
      rw [hothers.table]
      exact .lost callId id operationId h.id hop' hrecord
    | some record =>
      have hrecord' : s.table.records[id]? = some record := h.records ▸ hrecord
      have hwaits : record.phase ≠ .terminal → Section inner ctx s [] { cancelToken
            { s' with others := insert callId s'.others } id with
          records := s'.records.insert id (record.wait callId .cancel) } :=
        fun hterminal => .waits .cancel hothers hrecord' (.inr hterminal) rfl rfl
      have hcancels : record.phase ≠ .terminal → record.phase ≠ .running →
          Performs inner ctx s (cancelWaiting inner spawn { cancelToken
            { s' with others := insert callId s'.others } id with
            records := s'.records.insert id (record.wait callId .cancel) } id
            (cancelledBeforeStart inner record.call record.operation)) :=
        fun hterminal hrunning => (hwaits hterminal).trans (cancelWaiting_section _
          (hctx.after (hwaits hterminal)) (get_insert_self _ _ _) hterminal hrunning)
      cases hphase : record.phase with
      | terminal =>
        simp only [cancel, htarget, hrecord, hphase]
        exact .answered hothers _ (answer_reply ..)
      | received | running =>
        simp only [cancel, htarget, hrecord, hphase]
        exact hwaits (by simp [hphase])
      | queued | directWaiting =>
        simp only [cancel, htarget, hrecord, hphase]
        exact hcancels (by simp [hphase]) (by simp [hphase])

lemma create_section (cls : Option (Class × Bool)) (h : Counted s s' call.callId .call)
    (hopen : s.table.closing = false) : Section inner ctx s [] (create inner s' call cls) := by
  have hnext : s'.nextOperation = s.table.nextOperation := congrArg Table.nextOperation h.table
  have htable : (create inner s' call cls).table = s.table.create call cls := by
    cases cls with
    | none =>
      show { s'.table with
        records := s'.table.records.insert call.callId
          (Record.received call (operationName s'.nextOperation) none) } = _
      rw [h.table, hnext]
      rfl
    | some cls =>
      show { s'.table with
        nextOperation := s'.nextOperation + 1
        operations := s'.table.operations.insert (operationName s'.nextOperation) call.callId
        records := s'.table.records.insert call.callId
          (Record.received call (operationName s'.nextOperation) (some cls)) } = _
      rw [h.table, hnext]
      rfl
  have houter : (create inner s' call cls).outer = s'.outer := by cases cls <;> rfl
  refine .of_act ?_ (houter.trans h.outer)
  rw [htable]
  exact .create call cls h.id hopen

lemma hold_section (h : Counted s s' callId .call) (hopen : s.table.closing = false)
    (read : EventsRead) (log deadline : ℕ) :
    Section inner ctx s [] { s' with
      others := insert callId s'.others
      held := s'.held ++ [⟨callId, read, log, deadline⟩] } := by
  refine .of_act ?_ h.outer
  have htable : table { s' with
      others := insert callId s'.others
      held := s'.held ++ [⟨callId, read, log, deadline⟩] } =
      { s'.table with held := s'.table.held ++ [callId] } := by
    show { s'.table with
      held := (s'.held ++ [Held.mk callId read log deadline]).map Held.callId } = _
    rw [map_append]
    rfl
  rw [htable, h.table]
  exact .hold callId h.id hopen

lemma readEvents_section (h : Counted s s' callId .call) (hopen : s.table.closing = false)
    (now : ℕ) (events : EventsCall) :
    Performs inner ctx s (readEvents inner s' now callId events) := by
  unfold readEvents
  simp only
  split
  · exact .answered h _ (answer_refuse ..)
  · split
    · exact .answered h _ (answer_refuse ..)
    · split
      · exact .answered h _ (answer_reply ..)
      · split
        · exact .answered h _ (answer_reply ..)
        · exact hold_section h hopen ..

/-- What reading a call comes to. -/
def ReadsAs (inner : Inner F) (ctx : Context) (s : State F) (call : Call) :
    State F × Reading → Prop
  | (s', .replies out) => Section inner ctx s out s'
  | (s', .spool lane) => s.table.highestCall < call.callId ∧ s.table.closing = false ∧
      s'.table = s.table.count call.callId lane ∧ s'.outer = s.outer
  | (s', .close) => Section inner ctx s [] s' ∧ s.closeStarted = false
  | (s', .protocol _) => s' = s

lemma receiveClose_section (h : Counted s s' call.callId .control) :
    ReadsAs inner ctx s call (receiveClose inner s' call.callId) := by
  have hreport : s'.report = s.table.report := congrArg Table.report h.table
  have hstarted : s'.closeStarted = s.closeStarted :=
    congrArg (fun outer => outer.2.2.2.2.2.1) h.outer
  have hothers :
      Counted s { s' with others := insert call.callId s'.others } call.callId .control :=
    ⟨h.id, h.table, h.outer⟩
  unfold receiveClose
  simp only
  split
  · exact Section.answered hothers _ (answer_closeReply ..)
  · rename_i hfound
    have hwaits : Section inner ctx s [] { s' with
        others := insert call.callId s'.others
        closers := s'.closers ++ [call.callId] } := by
      refine .of_act ?_ h.outer
      show Act inner ctx s.table [] []
        { s'.table with closers := s'.table.closers ++ [call.callId] }
      rw [h.table]
      exact .closer call.callId h.id (hreport.symm.trans hfound)
    split
    · exact hwaits
    · rename_i hclose
      exact ⟨hwaits, by simpa [hstarted] using hclose⟩

lemma handle_section {request : Request} (spawn : Spawn) (now : ℕ) (hctx : ctx.Suits s)
    (hfrees : ∀ operationId owner record, request = .release operationId →
      s.table.operations[operationId]? = some owner → s.table.records[owner]? = some record →
      record.phase = .terminal → ctx.frees owner)
    (h : Counted s s' call.callId request.lane)
    (hopen : s.table.closing = false ∨ request = .close) :
    ReadsAs inner ctx s call (handle inner spawn now s' call request.lane request) := by
  cases request with
  | close => exact receiveClose_section h
  | direct => exact create_section none h (by simpa using hopen)
  | operation cls responseView =>
    exact create_section (some (cls, responseView)) h (by simpa using hopen)
  | events events => exact readEvents_section h (by simpa using hopen) now events
  | spool => exact ⟨h.id, by simpa using hopen, h.table, h.outer⟩
  | result operationId => exact view_section h operationId true
  | response operationId => exact view_section h operationId false
  | cancel target => exact cancel_section h target hctx
  | release operationId =>
    exact release_section h operationId fun owner record => hfrees operationId owner record rfl

lemma receive_section (spawn : Spawn) (now : ℕ) (hctx : ctx.Suits s)
    (hfrees : ∀ operationId owner record,
      inner.ports.classify call = .ok (.release operationId) →
      s.table.operations[operationId]? = some owner → s.table.records[owner]? = some record →
      record.phase = .terminal → ctx.frees owner) :
    ReadsAs inner ctx s call (receive inner spawn now s call) := by
  by_cases hid : call.callId ≤ s.highestCall
  · simp only [receive, if_pos hid]
    exact rfl
  · have hid' : s.table.highestCall < call.callId := lt_of_not_ge hid
    have hrefused : ∀ error, ReadsAs inner ctx s call ({ s with highestCall := call.callId },
          .replies [inner.refuse call.callId (inner.ports.lane call.method) error]) := by
      intro error
      exact .of_act (.arrive call.callId (inner.ports.lane call.method) _ hid' (.inr rfl)) rfl
    by_cases hended : s.ended = true
    · simp only [receive, if_neg hid, if_pos hended]
      exact .of_act (.arrive call.callId .call [] hid' (.inl rfl)) rfl
    cases hclass : inner.ports.classify call with
    | error error =>
      simp only [receive, if_neg hid, if_neg hended, hclass]
      exact hrefused error
    | ok request =>
      by_cases hclosing : s.closing = true ∧ request ≠ .close
      · simp only [receive, if_neg hid, if_neg hended, hclass, if_pos hclosing]
        exact hrefused _
      by_cases hfull : full { s with highestCall := call.callId } inner.limits
          (inner.ports.lane call.method) = true
      · simp only [receive, if_neg hid, if_neg hended, hclass, if_neg hclosing, if_pos hfull]
        exact hrefused _
      simp only [receive, if_neg hid, if_neg hended, hclass, if_neg hclosing, if_neg hfull]
      rw [inner.ports.lane_of_classify call request hclass]
      refine handle_section spawn now hctx ?_ ⟨hid', count_table .., count_outer ..⟩ ?_
      · rintro operationId owner record rfl
        exact hfrees operationId owner record hclass
      · rw [not_and, not_not] at hclosing
        cases hopen : s.closing with
        | false => exact .inl hopen
        | true => exact .inr (hclosing hopen)

end Receipt

/-! ### Reads, deliveries and close -/

lemma markDelivered_section (inner : Inner F) (ctx : Context) (views : List (ℕ × View))
    (s : State F) : Section inner ctx s [] (s.markDelivered views) := by
  induction views generalizing s with
  | nil => exact .refl s
  | cons view rest ih =>
    have hfirst : Section inner ctx s [] (s.deliver view.1 view.2) := by
      cases hrecord : s.records[view.1]? with
      | none =>
        simp only [deliver, hrecord]
        exact .refl s
      | some record =>
        simp only [deliver, hrecord]
        exact .of_act (.deliver view.1 record view.2 hrecord) rfl
    exact hfirst.trans (ih _)

lemma answerHeld_spec (inner : Inner F) (ready : Held → EventsBatch → Bool) (reads : List Held)
    (s : State F) :
    ∃ kept answered : List ℕ, (kept ++ answered).Perm (reads.map Held.callId) ∧
      (answerHeld inner ready reads s).1.table =
        { s.table.answer (answered.map fun callId => (callId, Lane.call)) with
          held := kept ++ s.table.held } ∧
      (answerHeld inner ready reads s).2.map Outgoing.answer =
        answered.map (fun callId => (callId, Lane.call)) ∧
      (answerHeld inner ready reads s).1.outer = s.outer := by
  induction reads generalizing s with
  | nil =>
    refine ⟨[], [], List.Perm.refl _, ?_, rfl, rfl⟩
    simp [answerHeld]
  | cons read rest ih =>
    by_cases hready : ready read (s.readLog inner read.log read.read) = true
    · obtain ⟨kept, answered, hperm, htable, hreplies, houter⟩ := ih (s.answered read.callId)
      refine ⟨kept, read.callId :: answered, ?_, ?_, ?_, ?_⟩
      · exact perm_middle.trans (hperm.cons read.callId)
      · simp only [answerHeld, if_pos hready]
        rw [htable, State.answered, answeredOn_table, answer_answer]
        rfl
      · simp only [answerHeld, if_pos hready, map_cons, hreplies, answer_reply]
      · simp only [answerHeld, if_pos hready]
        rw [houter, State.answered, answeredOn_outer]
    · obtain ⟨kept, answered, hperm, htable, hreplies, houter⟩ := ih s
      refine ⟨read.callId :: kept, answered, hperm.cons read.callId, ?_, ?_, ?_⟩
      · simp only [answerHeld, if_neg hready]
        show { (answerHeld inner ready rest s).1.table with
          held := read.callId :: (answerHeld inner ready rest s).1.table.held } = _
        rw [htable]
        rfl
      · simp only [answerHeld, if_neg hready, hreplies]
      · simp only [answerHeld, if_neg hready]
        exact houter

lemma answerHeld_section (inner : Inner F) (ctx : Context) (ready : Held → EventsBatch → Bool)
    (s : State F) :
    Section inner ctx s (answerHeld inner ready s.held { s with held := [] }).2
      (answerHeld inner ready s.held { s with held := [] }).1 := by
  obtain ⟨kept, answered, hperm, htable, hreplies, houter⟩ :=
    answerHeld_spec inner ready s.held { s with held := [] }
  refine .of_act ?_ houter
  rw [htable]
  have hheld : (table { s with held := [] }).held = [] := rfl
  rw [hheld, append_nil]
  exact .reads kept answered _ hperm hreplies

/-- A settlement leaves every other record alone and no live record at its own. -/
lemma settle_live {outcome : Outcome F}
    (hrecord : (settle inner s callId outcome).1.table.records[id]? = some record)
    (hphase : record.phase ≠ .terminal) : id ≠ callId ∧ s.table.records[id]? = some record := by
  by_cases hlive : ∃ found, s.records[callId]? = some found ∧ found.phase ≠ .terminal
  · obtain ⟨found, hfound, hfoundPhase⟩ := hlive
    rw [settle_table inner outcome hfound hfoundPhase] at hrecord
    by_cases hid : id = callId
    · subst hid
      rw [settle_get_self] at hrecord
      split at hrecord
      · cases hrecord
        simp [Record.settled] at hphase
      · cases hrecord
    · rw [settle_get_of_ne _ _ _ hid] at hrecord
      exact ⟨hid, hrecord⟩
  · push Not at hlive
    rw [settle_of_absent outcome hlive] at hrecord
    refine ⟨?_, hrecord⟩
    rintro rfl
    exact hphase (hlive record hrecord)

lemma settleNotStarted_section (hctx : ctx.closing = true) (ids : List ℕ) (s : State F)
    (hids : ∀ id ∈ ids, ∀ record, s.table.records[id]? = some record →
      record.phase ≠ .running) : Performs inner ctx s (settleNotStarted inner ids s) := by
  induction ids generalizing s with
  | nil => exact .refl s
  | cons callId rest ih =>
    cases hrecord : s.records[callId]? with
    | none =>
      simp only [settleNotStarted, hrecord]
      exact ih s fun id hid => hids id (by simp [hid])
    | some record =>
      simp only [settleNotStarted, hrecord]
      have hcancelled : Section inner ctx s [] (s.cancelToken callId) := .quiet rfl rfl
      have hsettle : Performs inner ctx (s.cancelToken callId) (settle inner (s.cancelToken callId)
          callId (cancelledBeforeStart inner record.call record.operation)) :=
        settle_performs inner _ fun found hfound _ =>
          ⟨fun _ => hctx, fun hrunning => absurd hrunning (hids callId (by simp) found hfound)⟩
      refine (hcancelled.trans hsettle).trans (ih _ ?_)
      intro id hid found hfound hrunning
      obtain ⟨_, hbefore⟩ := settle_live hfound (by simp [hrunning])
      exact hids id (by simp [hid]) found hbefore hrunning

/-- A call without a record is not the one whose record is there. -/
lemma live_cons {callId : ℕ} {rest : List ℕ} (hfound : s.records[callId]? = none)
    (h : id ∉ rest ∧ s.table.records[id]? = some record) :
    id ∉ callId :: rest ∧ s.table.records[id]? = some record := by
  refine ⟨?_, h.2⟩
  rintro (_ | ⟨_, hmem⟩)
  · have hnone : s.table.records[id]? = none := hfound
    rw [hnone] at h
    cases h.2
  · exact h.1 hmem

lemma settleNotStarted_live (ids : List ℕ) (s : State F)
    (hrecord : (settleNotStarted inner ids s).1.table.records[id]? = some record)
    (hphase : record.phase ≠ .terminal) : id ∉ ids ∧ s.table.records[id]? = some record := by
  induction ids generalizing s with
  | nil => exact ⟨not_mem_nil, hrecord⟩
  | cons callId rest ih =>
    cases hfound : s.records[callId]? with
    | none =>
      simp only [settleNotStarted, hfound] at hrecord
      exact live_cons hfound (ih s hrecord)
    | some found =>
      simp only [settleNotStarted, hfound] at hrecord
      obtain ⟨hnot, hsame⟩ := ih _ hrecord
      obtain ⟨hne, hbefore⟩ := settle_live hsame hphase
      exact ⟨by simp [hne, hnot], hbefore⟩

section
variable (inner : Inner F) (ctx : Context) (s : State F) (callId : ℕ) (record : Record F)

lemma detachWorker_section : Section inner ctx s [] (s.detachWorker callId record) := by
  unfold detachWorker
  split
  · refine ⟨⟨[], .refl, by simp [recordDetached]⟩, ?_, rfl⟩
    rintro workspace ⟨marker, hmem, hstrong⟩
    exact ⟨marker, by simp [recordDetached, hmem, hstrong], hstrong⟩
  · exact .refl s

lemma detachWorker_revoke (count : ℕ) :
    table { (s.revoke callId).detachWorker callId record with detachedCount := count } =
      { (s.detachWorker callId record).table with revoked := insert callId s.revoked } ∧
    outer { (s.revoke callId).detachWorker callId record with detachedCount := count } =
      (s.detachWorker callId record).outer := by
  unfold detachWorker
  split <;> exact ⟨rfl, rfl⟩

lemma detachWorker_table : (s.detachWorker callId record).table = s.table := by
  unfold detachWorker
  split <;> rfl

end

lemma detachRunning_section (inner : Inner F) (ctx : Context) (ids : List ℕ) (s : State F)
    (hnodup : ids.Nodup) (hrunning : ∀ id ∈ ids, ∃ record, s.table.records[id]? = some record ∧
      record.phase = .running) :
    Section inner ctx s (detachRunning inner ids s).2 (detachRunning inner ids s).1 := by
  induction ids generalizing s with
  | nil => exact .refl s
  | cons callId rest ih =>
    obtain ⟨record, hrecord, hphase⟩ := hrunning callId mem_cons_self
    have hget : s.records[callId]? = some record := hrecord
    obtain ⟨hnot, hrest⟩ := nodup_cons.mp hnodup
    simp only [detachRunning, hget]
    have hdetach := detachWorker_section inner ctx s callId record
    have htable := detachWorker_table s callId record
    obtain ⟨hrevoked, houter⟩ := detachWorker_revoke s callId record
      (min (((s.revoke callId).detachWorker callId record).detachedCount + 1) u32Max)
    obtain ⟨hsettle, hresult⟩ := settle_section inner ctx (s.detachWorker callId record)
      { (s.revoke callId).detachWorker callId record with
        detachedCount :=
          min (((s.revoke callId).detachWorker callId record).detachedCount + 1) u32Max }
      ⟨.cancelled (inner.ports.detached record.call (record.operation.map Prod.fst)).1,
        (inner.ports.detached record.call (record.operation.map Prod.fst)).2, {}⟩
      hrevoked houter (htable ▸ hrecord) (by simp [hphase]) (.refl _)
      (fun _ hid _ => hid) (by simp [hphase]) (.refl _) (by
        intro id hid
        rw [Finset.mem_insert] at hid
        rw [htable]
        exact hid.symm) (by
        rw [htable]
        exact Finset.subset_insert _ _) (fun _ => .inr (.inl (Finset.mem_insert_self _ _)))
    refine (hdetach.trans hsettle).trans (ih _ hrest ?_)
    intro id hid
    obtain ⟨other, hother, hotherPhase⟩ := hrunning id (mem_cons_of_mem _ hid)
    refine ⟨other, ?_, hotherPhase⟩
    have hne : id ≠ callId := fun heq => hnot (heq ▸ hid)
    rw [hresult]
    rw [settle_get_of_ne _ _ _ hne, htable]
    exact hother

lemma detachRunning_live (ids : List ℕ) (s : State F)
    (hrecord : (detachRunning inner ids s).1.table.records[id]? = some record)
    (hphase : record.phase ≠ .terminal) : id ∉ ids ∧ s.table.records[id]? = some record := by
  induction ids generalizing s with
  | nil => exact ⟨not_mem_nil, hrecord⟩
  | cons callId rest ih =>
    cases hfound : s.records[callId]? with
    | none =>
      simp only [detachRunning, hfound] at hrecord
      exact live_cons hfound (ih s hrecord)
    | some found =>
      simp only [detachRunning, hfound] at hrecord
      obtain ⟨hnot, hsame⟩ := ih _ hrecord
      obtain ⟨hne, hbefore⟩ := settle_live hsame hphase
      rw [(detachWorker_revoke s callId found _).1] at hbefore
      have hunchanged : (s.detachWorker callId found).table.records[id]? = some record := hbefore
      rw [detachWorker_table] at hunchanged
      exact ⟨by simp [hne, hnot], hunchanged⟩

lemma mem_runningCalls :
    id ∈ s.runningCalls ↔
      ∃ record, s.table.records[id]? = some record ∧ record.phase = .running := by
  refine (mem_map_filter (m := s.records) fun record => decide (record.phase = .running)).trans ?_
  simp [table]

lemma mem_notStarted :
    id ∈ s.notStarted ↔ ∃ record, s.table.records[id]? = some record ∧
      (record.phase = .received ∨ record.phase = .queued ∨ record.phase = .directWaiting) := by
  refine (mem_map_filter (m := s.records) fun record => decide (record.phase = .received) ||
    decide (record.phase = .queued) || decide (record.phase = .directWaiting)).trans ?_
  simp [table, or_assoc]

lemma runningCalls_nodup (s : State F) : s.runningCalls.Nodup := by
  refine List.Nodup.map_on ?_ ((toList_nodup s.records).filter _)
  rintro ⟨key, record⟩ hleft ⟨key', record'⟩ hright heq
  subst heq
  have hfirst := mem_toList.mp (mem_of_mem_filter hleft)
  have hsecond := mem_toList.mp (mem_of_mem_filter hright)
  rw [hfirst] at hsecond
  cases hsecond
  rfl

end GwzCore.SessionHost
