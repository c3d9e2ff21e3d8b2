import GwzCore.SessionHost.Answers

/-!
# What the table retains

Over every run the counter of table entries, the queue's bound and the two indexes
agree with the records, and a record leaves in one of three ways: admission evicts the
oldest delivered one, a release call names it, or it is settled with its own reply.
-/
namespace GwzCore.SessionHost
open SessionContract List
variable {F : Type}

/-- In a list without repetitions, what a sublist has after an element comes after it. -/
lemma not_mem_of_sublist {before after past rest : List ℕ} {id other : ℕ}
    (hsub : (before ++ id :: after).Sublist (past ++ id :: rest))
    (hnodup : (past ++ id :: rest).Nodup) (hother : other ∈ past) : other ∉ after := by
  intro hafter
  have hpair : [id, other].Sublist (past ++ id :: rest) := by
    refine List.Sublist.trans ?_ hsub
    refine List.Sublist.trans ?_ (sublist_append_right before (id :: after))
    exact List.Sublist.cons_cons id (singleton_sublist.mpr hafter)
  have hdisjoint := disjoint_of_nodup_append hnodup
  obtain ⟨first, second, hsplit, hfirst, hsecond⟩ := sublist_append_iff.mp hpair
  cases first with
  | nil =>
    rw [nil_append] at hsplit
    subst hsplit
    exact hdisjoint hother (hsecond.subset (by simp))
  | cons =>
    rw [cons_append, List.cons.injEq] at hsplit
    obtain ⟨rfl, _⟩ := hsplit
    exact hdisjoint (hfirst.subset mem_cons_self) mem_cons_self

namespace State

/-- The record is terminal with its views delivered, and every terminal record that was
settled before it lacks a view. -/
def Oldest (s : State F) (id : ℕ) (record : Record F) : Prop :=
  record.phase = .terminal ∧ record.delivered = true ∧
    ∀ past rest, s.trace.filterMap Event.settles = past ++ id :: rest →
      ∀ other ∈ past, ∀ found : Record F, s.records[other]? = some found →
        found.phase = .terminal → found.delivered = false

/-- How a step removes a record. -/
inductive Departs (inner : Inner F) (s : State F) (label : Label F) (id : ℕ)
    (record : Record F) : Prop
  | evicted (holdest : s.Oldest id record)
  | released (index : ℕ) (env : Env F) (call : Call) (operationId : String)
      (hlabel : label = .advance index env) (hthread : s.threads[index]? = some (.reader call))
      (hcall : inner.ports.classify call = .ok (.release operationId))
      (hnamed : s.operations[operationId]? = some id) (hphase : record.phase = .terminal)
  | settled (hphase : record.phase ≠ .terminal) (hnone : (id, Lane.call) ∉ s.replied)
      (hreply : (id, Lane.call) ∈ (step inner s label).replied)

/-- The table's counter, bounds and indexes, and how records leave it. -/
structure Retains (inner : Inner F) (s : State F) : Prop where
  entries : s.tableEntries = s.records.toList.countP fun entry => entry.2.inTable
  entriesLe : s.tableEntries ≤ inner.limits.operationTable
  queueLe : s.queue.length ≤ inner.limits.queuedOperations
  requests : ∀ requestId id, s.requests[requestId]? = some id ↔
    ∃ record : Record F, s.records[id]? = some record ∧ record.liveRequest = some requestId
  operations : ∀ operationId id, s.operations[operationId]? = some id ↔
    ∃ record : Record F, s.records[id]? = some record ∧ record.operationId = some operationId
  departs : ∀ label id (record : Record F), s.records[id]? = some record →
    (step inner s label).records[id]? = none → s.Departs inner label id record

end State

section Departures
variable {inner : Inner F} {s s' : State F} {thread next : Thread F} {id : ℕ} {record : Record F}
  {answered beyond : Multiset (ℕ × Lane)}

lemma Section.departs {ctx : Context} {s₀ : State F} {out : List Outgoing}
    (hsection : Section inner ctx s₀ out s') (hsound : s₀.table.Sound inner)
    (howes : s₀.table.Answers answered beyond)
    (hrecord : s₀.table.records[id]? = some record) (hgone : s'.table.records[id]? = none) :
    ctx.frees id ∨ record.phase ≠ .terminal ∧ (id, Lane.call) ∉ answered ∧
      (id, Lane.call) ∈ out.map Outgoing.answer := by
  obtain ⟨_, hacts, _⟩ := hsection.acts
  refine (Table.gone_acts hsound hacts hrecord hgone).imp_right ?_
  rintro ⟨hphase, hreply⟩
  refine ⟨hphase, fun hbefore => ?_, hreply⟩
  -- no call is answered twice, so a reply that the section returns is the first
  have hnodup := Ledger.answered_nodup (howes.acts hsound hacts)
  rw [Multiset.map_add, Multiset.nodup_add] at hnodup
  exact Multiset.disjoint_left.mp hnodup.2.2 (Multiset.mem_map_of_mem _ hbefore)
    (Multiset.mem_map_of_mem _ (Multiset.mem_coe.mpr hreply))

/-- A turn that removes a record evicts it, releases it, or settles it and is about to
send its reply. -/
lemma Turn.departs (hturn : Turn inner s thread s' next) (hsound : s.table.Sound inner)
    (howes : s.table.Answers answered beyond)
    (hrecord : s.table.records[id]? = some record) (hgone : s'.table.records[id]? = none) :
    s.table.Evictable id ∨ (∃ call, thread = .reader call ∧ s.released inner call id) ∨
      record.phase ≠ .terminal ∧ (id, Lane.call) ∉ answered ∧ (id, Lane.call) ∈ next.replies := by
  have hkept : s'.table.records ≠ s.table.records := by
    intro hsame
    rw [hsame, hrecord] at hgone
    cases hgone
  cases hturn.effect with
  | quiet _ htable => exact absurd (by rw [htable]) hkept
  | acts hsection hsame _ _ _ _ _ hfrees hsent =>
    rcases hsection.departs (hsame ▸ hsound) (hsame ▸ howes) (hsame ▸ hrecord) hgone with
      hfreed | ⟨hphase, hnone, hreply⟩
    · exact (hfrees id hfreed).imp_right .inl
    · exact .inr (.inr ⟨hphase, hnone, hsent _ hreply⟩)
  | @reports mid _ start outcome batch more hsettle hthreads hsettled hschedule =>
    right
    right
    obtain ⟨_, hacts, _⟩ := hsettle.acts
    cases hmid : mid.table.records[id]? with
    | none =>
      rcases hsettle.departs hsound howes hrecord hmid with hfrees | ⟨hphase, hnone, hreply⟩
      · exact hfrees.elim
      · refine ⟨hphase, hnone, ?_⟩
        simp only [Thread.replies, map_append, ← Multiset.coe_add, Multiset.mem_add]
        exact .inl (.inl (Multiset.mem_coe.mpr hreply))
    | some found =>
      rcases hschedule.departs (hsound.acts hacts) (howes.acts hsound hacts) hmid hgone with
        hfrees | ⟨hphase, hnone, hreply⟩
      · exact hfrees.elim
      · refine ⟨fun hterminal => hphase (Table.terminal_acts hsound hacts hrecord hterminal hmid),
          fun hbefore => hnone (Multiset.mem_add.mpr (.inl hbefore)), ?_⟩
        simp only [Thread.replies, map_append, ← Multiset.coe_add, Multiset.mem_add]
        exact .inl (.inr (Multiset.mem_coe.mpr hreply))
  | takes start hacts =>
    rcases Table.gone_acts hsound hacts hrecord hgone with hfrees | ⟨_, hnone⟩
    · exact hfrees.elim
    · cases hnone
  | _ => exact absurd rfl hkept

/-- The record that admission may evict is the oldest delivered one. -/
lemma Invariant.oldest (h : Invariant inner s) (hrecord : s.records[id]? = some record)
    (hevictable : s.table.Evictable id) : s.Oldest id record := by
  obtain ⟨before, after, found, hretained, hfound, hdelivered, hfirst⟩ := hevictable
  have hsame : found = record := Option.some.inj (hfound.symm.trans hrecord)
  subst hsame
  have hindexed := h.lawful.sound.indexed.retained
  have hterminal : found.phase = .terminal := by
    obtain ⟨other, hother, hphase⟩ := (hindexed id).mp (by rw [hretained]; simp)
    rw [hfound] at hother
    cases hother
    exact hphase
  refine ⟨hterminal, hdelivered, ?_⟩
  intro past rest hsettles other hother older holder hphase
  have hsub : (before ++ id :: after).Sublist (past ++ id :: rest) := by
    rw [← hretained, ← hsettles]
    exact h.lawful.aged
  have hnodup : (past ++ id :: rest).Nodup := hsettles ▸ h.lawful.history.settlesNodup
  have hkept : other ∈ before ++ id :: after := by
    rw [← hretained]
    exact (hindexed other).mpr ⟨older, holder, hphase⟩
  rcases mem_append.mp hkept with hbefore | hlater
  · exact hfirst other hbefore older holder
  · rcases mem_cons.mp hlater with rfl | hafter
    · exact absurd mem_cons_self (disjoint_of_nodup_append hnodup hother)
    · exact absurd hafter (not_mem_of_sublist hsub hnodup hother)

lemma Invariant.departs (h : Invariant inner s) {label : Label F}
    (hrecord : s.records[id]? = some record)
    (hgone : (SessionHost.step inner s label).records[id]? = none) :
    s.Departs inner label id record := by
  rcases h.step_turn label with htable | ⟨index, env, thread, u, next, hlabel, hget, hturn, hstep⟩
  · have hsame : (SessionHost.step inner s label).records = s.records :=
      congrArg Table.records htable
    rw [hsame, hrecord] at hgone
    cases hgone
  · rw [hstep] at hgone
    rcases hturn.departs h.lawful.sound h.owes hrecord hgone with hevictable |
      ⟨call, rfl, operationId, found, hcall, hnamed, hfound, hphase⟩ | ⟨hphase, hnone, hreply⟩
    · exact .evicted (h.oldest hrecord hevictable)
    · have hsame : found = record := Option.some.inj (hfound.symm.trans hrecord)
      subst hsame
      exact .released index env call operationId hlabel hget hcall hnamed hphase
    · refine .settled hphase hnone ?_
      obtain ⟨started, hthreads, _⟩ := hturn.exists_started
      obtain ⟨rest, _, htotal⟩ := Pool.exists_rest Thread.replies hget
      rw [hstep, State.replied]
      show _ ∈ _ + Pool.total Thread.replies (u.threads.set index next)
      rw [hthreads, htotal]
      simp [hreply]

end Departures

/-- In every state of every run the table's counter, bounds and indexes agree with its
records, and every record that a step removes is evicted as the oldest delivered one,
released by name once terminal, or settled with its own reply. -/
theorem table_retains (inner : Inner F) (labels : List (Label F)) :
    (run inner labels).Retains inner := by
  have hinv := Invariant.run inner labels
  have hindexed := hinv.lawful.sound.indexed
  constructor
  · exact hindexed.entries.trans
      (FiniteMap.total_indicator (fun _ (record : Record F) => record.inTable) _)
  · exact hindexed.entriesLe
  · exact hindexed.queueLe
  · exact hindexed.requests
  · exact hindexed.operations
  · intro label id record hrecord hgone
    exact hinv.departs hrecord hgone

/-- A submitted write completes and is released before any view of it was asked for. -/
def sampleRelease : List (Label String) :=
  [.opens, .frame [1, 0], .advance 2 (sampleEnv "r1" 0), .advance 0 (sampleEnv "r1" 0),
    .advance 0 (sampleEnv "r1" 0), .advance 3 (sampleEnv "r1" 0), .advance 3 (sampleEnv "r1" 0),
    .advance 3 (sampleEnv "r1" 0), .frame [2, 2]]

set_option maxRecDepth 10000 in
/-- The release discards a record whose result was never delivered. -/
theorem released_undelivered :
    (run sampleInner sampleRelease).records[1]?.map
      (fun record => (record.phase, record.delivered)) = some (.terminal, false) ∧
    ((step sampleInner (run sampleInner sampleRelease) (.advance 4 (sampleEnv "r1" 0))).records[1]?
      ).isNone = true := by
  decide
end GwzCore.SessionHost
