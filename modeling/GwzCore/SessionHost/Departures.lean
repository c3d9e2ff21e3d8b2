import GwzCore.SessionHost.History

/-!
# How records leave the table

A record leaves when a section frees it, which only terminal records can be, or
when it is settled with its own reply. The retained records stand in the order
of their settlements, so the first delivered one among them is the oldest. What
waits for close to answer it leaves likewise: once the session closes no read is
held, and once its report is out no close waits.
-/
namespace GwzCore.SessionHost
open SessionContract List Option
variable {F : Type}

namespace Table
variable {inner : Inner F} {ctx : Context} {t u : Table F} {out : List Outgoing}
  {started : List Start} {id : ℕ} {record : Record F}

/-- A record that an act removes was freed, or settled with its own reply. -/
lemma gone_act (hshape : t.Shape) (hindexed : t.Indexed inner)
    (hact : Act inner ctx t out started u) (hrecord : t.records[id]? = some record)
    (hgone : u.records[id]? = none) :
    ctx.frees id ∨ record.phase ≠ .terminal ∧ (id, Lane.call) ∈ out.map Outgoing.answer := by
  have hfate := fate_act hact hshape hindexed id
  rw [hgone] at hfate
  generalize hafter : (none : Option (Record F)) = after at hfate
  cases hfate with
  | kept => simp [hrecord] at hafter
  | freed _ _ _ hfrees => exact .inl hfrees
  | settled found after hfound hphase _ _ hanswer =>
    rw [hrecord] at hfound
    cases hfound
    exact .inr ⟨hphase, hanswer hafter.symm⟩
  | _ => cases hafter

section

variable (hsound : t.Sound inner) (hacts : Acts inner ctx t out started u)
  (hrecord : t.records[id]? = some record)
include hsound hacts hrecord

/-- A terminal record stays terminal up to its removal. -/
lemma terminal_acts (hterminal : record.phase = .terminal)
    {found : Record F} (hfound : u.records[id]? = some found) : found.phase = .terminal := by
  have hpast : t.Past 3 id := by
    refine ⟨hsound.shape.bound id record hrecord, ?_⟩
    intro other hother
    rw [hrecord] at hother
    cases hother
    simp [hterminal, Phase.rank]
  have hboth := hacts.induction_on (P := fun v => v.Sound inner ∧ v.Past 3 id) ⟨hsound, hpast⟩
    fun hact hv => ⟨hv.1.act hact, hv.2.act le_rfl hv.1.shape hv.1.indexed hact⟩
  have hrank := hboth.2.2 found hfound
  cases hcase : found.phase <;> simp_all [Phase.rank]

lemma gone_acts (hgone : u.records[id]? = none) :
    ctx.frees id ∨ record.phase ≠ .terminal ∧ (id, Lane.call) ∈ out.map Outgoing.answer := by
  induction hacts with
  | refl => simp [hrecord] at hgone
  | @tail out more started workers mid last chain hact ih =>
    have hmidSound := hsound.acts chain
    rw [map_append, mem_append]
    cases hmid : mid.records[id]? with
    | none =>
      rcases ih hmid with hfrees | ⟨hphase, hanswer⟩
      · exact .inl hfrees
      · exact .inr ⟨hphase, .inl hanswer⟩
    | some found =>
      rcases gone_act hmidSound.shape hmidSound.indexed hact hmid hgone with
        hfrees | ⟨hphase, hanswer⟩
      · exact .inl hfrees
      · refine .inr ⟨?_, .inr hanswer⟩
        intro hterminal
        exact hphase (terminal_acts hsound chain hrecord hterminal hmid)

end

/-- The retained records stand in the order of their settlements. -/
def Aged (t : Table F) : Prop := t.retained.Sublist (t.trace.filterMap Event.settles)

lemma Aged.act (h : t.Aged) (hact : Act inner ctx t out started u) : u.Aged := by
  have hsettle : ∀ {v : Table F} {callId : ℕ} {settled : Record F} (outcome : Outcome F),
      v.retained = t.retained → v.trace = t.trace → (v.settle callId settled outcome).Aged := by
    intro v callId settled outcome hretained htrace
    have htrace' : (v.settle callId settled outcome).trace = t.trace ++ [Event.settled callId] := by
      rw [← htrace]
      rfl
    rw [Aged, htrace', History.filterMap_concat]
    simp only [Table.settle, hretained, Event.settles, toList_some]
    split
    · exact List.Sublist.append_right h _
    · exact (filter_sublist.trans h).trans (sublist_append_left _ _)
  have hsame : ∀ {v : Table F} {event : Event}, v.retained = t.retained →
      v.trace = t.trace ++ [event] → event.settles = none → v.Aged := by
    intro v event hretained htrace hnone
    rw [Aged, hretained, htrace, History.filterMap_concat, hnone, toList_none,
      append_nil]
    exact h
  cases hact with
  | enqueue | start | startDirect => exact hsame rfl rfl rfl
  | evict =>
    exact filter_sublist.trans h
  | release => exact filter_sublist.trans h
  | startFailed callId record operationId cls resolved outcome | settle callId record outcome
  | startDirectFailed callId record resolved outcome =>
    exact hsettle outcome rfl rfl
  | _ => exact h

lemma Aged.acts (h : t.Aged) (hacts : Acts inner ctx t out started u) : u.Aged :=
  hacts.induction_on h fun hact hv => hv.act hact

lemma report_act (hact : Act inner ctx t out started u) : u.report = t.report := by
  cases hact <;> rfl

lemma report_acts (hacts : Acts inner ctx t out started u) : u.report = t.report :=
  hacts.induction_on (P := fun v => v.report = t.report) rfl fun hact h =>
    (report_act hact).trans h

/-- Once the session closes, no further read is held. -/
lemma held_act (hclosing : t.closing = true) (hheld : t.held = [])
    (hact : Act inner ctx t out started u) : u.held = [] := by
  cases hact with
  | hold callId hid hopen => simp [hclosing] at hopen
  | reads kept answered out hperm =>
    rw [hheld, perm_nil, append_eq_nil_iff] at hperm
    exact hperm.1
  | _ => exact hheld

lemma held_acts (hclosing : t.closing = true) (hheld : t.held = [])
    (hacts : Acts inner ctx t out started u) : u.held = [] := by
  have hboth := hacts.induction_on (P := fun v => v.closing = true ∧ v.held = [])
    ⟨hclosing, hheld⟩ fun hact hv => ⟨(closing_act hact).trans hv.1, held_act hv.1 hv.2 hact⟩
  exact hboth.2

/-- Once the report is out, no further close waits for it. -/
lemma closers_act (hreport : t.report ≠ none) (hclosers : t.closers = [])
    (hact : Act inner ctx t out started u) : u.closers = [] := by
  cases hact with
  | closer callId hid hnone => exact absurd hnone hreport
  | _ => exact hclosers

lemma closers_acts (hreport : t.report ≠ none) (hclosers : t.closers = [])
    (hacts : Acts inner ctx t out started u) : u.closers = [] := by
  have hboth := hacts.induction_on (P := fun v => v.report ≠ none ∧ v.closers = [])
    ⟨hreport, hclosers⟩ fun hact hv => ⟨(report_act hact).symm ▸ hv.1, closers_act hv.1 hv.2 hact⟩
  exact hboth.2

/-- A table whose records are terminal and where nothing is held or waits for
the report owes no answer. -/
lemma owed_eq_zero (hshape : t.Shape) (hsettled : t.Settled 3) (hheld : t.held = [])
    (hclosers : t.closers = []) : t.owed = 0 := by
  have hrecords : FiniteMap.total
      (fun id (record : Record F) => (record.answers id : Multiset (ℕ × Lane))) t.records = 0 := by
    apply FiniteMap.total_eq_zero
    intro id record hrecord
    have hphase : record.phase = .terminal := by
      have hrank := hsettled id record hrecord
      cases hcase : record.phase <;> simp_all [Phase.rank]
    rw [record.answers_of_terminal (hshape.wf id record hrecord) hphase]
    rfl
  rw [owed, hrecords, hheld, hclosers]
  rfl

end Table
end GwzCore.SessionHost
