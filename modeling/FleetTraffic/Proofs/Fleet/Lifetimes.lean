import FleetTraffic.Agent
import FleetTraffic.Proofs.Usage.Table

/-!
# Lifetimes in a sequence of reports

A lifetime of an agent is told by the agent's name and its startup. The reports of a lifetime count from
its startup, so the last of them holds all its traffic: the traffic of a fleet is the sum over the last
reports of all lifetimes. This sum is defined on the reports alone, without a roster or a ledger.

A sequence of reports is orderly if each report of a known agent either continues the lifetime of the
agent's report before, with no counter smaller than it was, or starts a later one.
-/

namespace FleetTraffic

/-- No counter is smaller than before. -/
def Counters.AtLeast (now before : Counters) : Prop :=
  before.accesses ≤ now.accesses ∧ before.bytesSent ≤ now.bytesSent ∧
    before.bytesReceived ≤ now.bytesReceived ∧ before.connections ≤ now.connections

namespace Report

/-- Two reports from the same agent and the same startup. -/
def SameLifetime (first second : Report) : Prop :=
  first.agentId = second.agentId ∧ first.startup = second.startup

instance (first second : Report) : Decidable (first.SameLifetime second) :=
  inferInstanceAs (Decidable (_ ∧ _))

/-- A report continues the lifetime of an earlier one: the startup is the same, and no counter of a
domain in both is smaller. -/
def Continues (report previous : Report) : Prop :=
  report.startup = previous.startup ∧
    ∀ domain usage before, report.domains.get? domain = some usage →
      previous.domains.get? domain = some before → usage.counters.AtLeast before.counters

/-- The reports of one agent. -/
def ofAgent (agent : String) (reports : List Report) : List Report :=
  reports.filter fun report => report.agentId = agent

/-- The last report of an agent. -/
def latestOf (agent : String) (reports : List Report) : Option Report :=
  (ofAgent agent reports).getLast?

/-- The last report of the lifetime that a report belongs to. -/
def supersededBy (report : Report) (reports : List Report) : Option Report :=
  (reports.filter fun earlier => earlier.SameLifetime report).getLast?

/-- The last reports of all lifetimes. A report stays unless a later one is of the same lifetime. -/
def lifetimeEnds : List Report → List Report
  | [] => []
  | report :: later =>
    if ∃ next ∈ later, next.SameLifetime report then lifetimeEnds later
    else report :: lifetimeEnds later

/-- What some reports hold together, without a bound. -/
def amountOver (reports : List Report) (domain : String) (quantity : Quantity) : Nat :=
  (reports.map fun report => (report.domains.amount domain quantity).toNat).sum

/-- The traffic of all lifetimes of all agents. -/
def lifetimeTotal (reports : List Report) (domain : String) (quantity : Quantity) : Nat :=
  amountOver (lifetimeEnds reports) domain quantity

/-- Each report of a known agent continues the agent's lifetime or starts a later one. -/
def Orderly (reports : List Report) : Prop :=
  ∀ earlier report, earlier ++ [report] <+: reports →
    ∀ previous ∈ latestOf report.agentId earlier,
      report.Continues previous ∨ previous.startup < report.startup

/-- A report opens a new lifetime of an agent that has reported before. -/
def OpensLifetime (report : Report) (reports : List Report) : Prop :=
  (∃ earlier ∈ reports, earlier.agentId = report.agentId) ∧
    ∀ earlier ∈ reports, ¬earlier.SameLifetime report

/-- To be of the same lifetime is mutual. -/
theorem SameLifetime.symm {first second : Report} (same : first.SameLifetime second) :
    second.SameLifetime first := ⟨same.1.symm, same.2.symm⟩

/-- Reports that share their lifetimes with a third one share it with each other. -/
theorem SameLifetime.trans {first second third : Report} (same : first.SameLifetime second)
    (same' : second.SameLifetime third) : first.SameLifetime third :=
  ⟨same.1.trans same'.1, same.2.trans same'.2⟩

/-! ## One report more -/

/-- One report more is one of its own agent. -/
theorem ofAgent_concat (agent : String) (reports : List Report) (report : Report) :
    ofAgent agent (reports ++ [report]) =
      if report.agentId = agent then ofAgent agent reports ++ [report] else ofAgent agent reports := by
  by_cases own : report.agentId = agent
  · simp [ofAgent, own]
  · simp [ofAgent, own]

/-- One report more is the last one of its own agent. -/
theorem latestOf_concat (agent : String) (reports : List Report) (report : Report) :
    latestOf agent (reports ++ [report]) =
      if report.agentId = agent then some report else latestOf agent reports := by
  rw [latestOf, ofAgent_concat]
  split
  next => exact List.getLast?_concat
  next => rfl

/-- A further report takes the place of the last one of its lifetime. -/
theorem lifetimeEnds_concat (reports : List Report) (report : Report) :
    lifetimeEnds (reports ++ [report]) =
      (lifetimeEnds reports).filter (fun ended => ¬ended.SameLifetime report) ++ [report] := by
  induction reports with
  | nil => simp [lifetimeEnds]
  | cons first rest inductionHypothesis =>
    have symmetric : report.SameLifetime first ↔ first.SameLifetime report :=
      ⟨SameLifetime.symm, SameLifetime.symm⟩
    simp only [List.cons_append, lifetimeEnds, List.mem_append, List.mem_singleton, or_and_right,
      exists_or, exists_eq_left, symmetric]
    by_cases replaced : ∃ next ∈ rest, next.SameLifetime first
    · simp only [if_pos replaced, if_pos (Or.inl replaced), inductionHypothesis]
    · by_cases same : first.SameLifetime report
      · simp [same, if_neg replaced, inductionHypothesis]
      · simp [same, replaced, inductionHypothesis]

/-- The ends of a lifetime are its last report. -/
theorem lifetimeEnds_of_report (reports : List Report) (report : Report) :
    (lifetimeEnds reports).filter (fun ended => ended.SameLifetime report) =
      (supersededBy report reports).toList := by
  induction reports using List.reverseRecOn with
  | nil => rfl
  | append_singleton before last inductionHypothesis =>
    rw [lifetimeEnds_concat, List.filter_append, List.filter_filter]
    by_cases same : last.SameLifetime report
    · have nothing : (lifetimeEnds before).filter
          (fun ended => decide (ended.SameLifetime report) && decide ¬ended.SameLifetime last) = [] := by
        apply List.filter_eq_nil_iff.mpr
        intro ended _ both
        obtain ⟨here, other⟩ := (Bool.and_eq_true _ _).mp both
        exact of_decide_eq_true other ((of_decide_eq_true here).trans same.symm)
      rw [nothing, supersededBy, List.filter_append]
      simp only [List.filter_cons, List.filter_nil, same, decide_true, if_true, List.nil_append,
        List.getLast?_concat, Option.toList_some]
    · have untouched : (lifetimeEnds before).filter
          (fun ended => decide (ended.SameLifetime report) && decide ¬ended.SameLifetime last) =
            (lifetimeEnds before).filter (fun ended => ended.SameLifetime report) := by
        apply List.filter_congr
        intro ended _
        by_cases here : ended.SameLifetime report
        · have other : ¬ended.SameLifetime last := fun both => same (both.symm.trans here)
          simp [here, other]
        · simp [here]
      rw [untouched, inductionHypothesis, supersededBy, supersededBy, List.filter_append]
      simp only [List.filter_cons, List.filter_nil, same, decide_false, Bool.false_eq_true, if_false,
        List.append_nil]

/-- No report holds nothing. -/
theorem amountOver_nil (domain : String) (quantity : Quantity) : amountOver [] domain quantity = 0 :=
  rfl

/-- One report holds its own amount. -/
theorem amountOver_singleton (report : Report) (domain : String) (quantity : Quantity) :
    amountOver [report] domain quantity = (report.domains.amount domain quantity).toNat := by
  simp only [amountOver, List.map_cons, List.map_nil, List.sum_cons, List.sum_nil, Nat.add_zero]

/-- What reports hold adds up. -/
theorem amountOver_append (first second : List Report) (domain : String) (quantity : Quantity) :
    amountOver (first ++ second) domain quantity =
      amountOver first domain quantity + amountOver second domain quantity := by
  simp only [amountOver, List.map_append, List.sum_append_nat]

/-- What reports hold splits by any test. -/
theorem amountOver_filter_add (keep : Report → Prop) [DecidablePred keep] (reports : List Report)
    (domain : String) (quantity : Quantity) :
    amountOver (reports.filter fun report => keep report) domain quantity +
        amountOver (reports.filter fun report => ¬keep report) domain quantity =
      amountOver reports domain quantity := by
  simp only [amountOver]
  induction reports with
  | nil => rfl
  | cons report rest inductionHypothesis =>
    by_cases kept : keep report
    · simp only [List.filter_cons, kept, decide_true, if_true, not_true_eq_false, decide_false,
        Bool.false_eq_true, if_false, List.map_cons, List.sum_cons]
      omega
    · simp only [List.filter_cons, kept, decide_false, Bool.false_eq_true, if_false,
        not_false_eq_true, decide_true, if_true, List.map_cons, List.sum_cons]
      omega

/-- One report more adds its traffic to the total and takes that of the report it supersedes away. -/
theorem lifetimeTotal_concat (reports : List Report) (report : Report) (domain : String)
    (quantity : Quantity) :
    lifetimeTotal (reports ++ [report]) domain quantity +
        amountOver (supersededBy report reports).toList domain quantity =
      lifetimeTotal reports domain quantity + (report.domains.amount domain quantity).toNat := by
  have split := amountOver_filter_add (fun ended => ended.SameLifetime report)
    (lifetimeEnds reports) domain quantity
  rw [lifetimeEnds_of_report] at split
  have appended : lifetimeTotal (reports ++ [report]) domain quantity =
      amountOver ((lifetimeEnds reports).filter fun ended => ¬ended.SameLifetime report) domain
          quantity + (report.domains.amount domain quantity).toNat := by
    rw [lifetimeTotal, lifetimeEnds_concat, amountOver_append, amountOver_singleton]
  rw [appended, lifetimeTotal]
  omega

/-- The traffic of all lifetimes is at most what all reports hold together. -/
theorem lifetimeTotal_le (reports : List Report) (domain : String) (quantity : Quantity) :
    lifetimeTotal reports domain quantity ≤ amountOver reports domain quantity := by
  induction reports using List.reverseRecOn with
  | nil => exact Nat.le_refl 0
  | append_singleton before last inductionHypothesis =>
    have grown := lifetimeTotal_concat before last domain quantity
    rw [amountOver_append, amountOver_singleton]
    omega

/-! ## Orderly reports -/

/-- Reports are orderly if each of them is, judged by the reports before it. -/
theorem orderly_iff_each (reports : List Report) :
    Orderly reports ↔
      ∀ (index : Nat) (inside : index < reports.length),
        ∀ previous ∈ latestOf reports[index].agentId (reports.take index),
          reports[index].Continues previous ∨ previous.startup < reports[index].startup := by
  constructor
  · intro orderly index inside
    apply orderly (reports.take index) reports[index]
    rw [List.take_append_getElem inside]
    exact List.take_prefix (index + 1) reports
  · rintro each earlier report ⟨rest, rfl⟩
    have here := each earlier.length (by simp)
    simpa only [List.append_assoc, List.singleton_append, List.take_left, List.getElem_append_right,
      Nat.le_refl, Nat.sub_self, List.getElem_cons_zero] using here

/-- What comes first in orderly reports is orderly. -/
theorem orderly_of_isPrefix {earlier reports : List Report} (orderly : Orderly reports)
    (isPrefix : earlier <+: reports) : Orderly earlier :=
  fun before report within => orderly before report (within.trans isPrefix)

/-- A report that continues a lifetime is not of a later one. -/
theorem not_later_of_continues {report previous : Report} (continued : report.Continues previous) :
    ¬previous.startup < report.startup := by
  rw [continued.1]
  exact Int.lt_irrefl _

/-- An agent has no last report just if no report is its own. -/
theorem latestOf_eq_none_iff (agent : String) (reports : List Report) :
    latestOf agent reports = none ↔ ∀ report ∈ reports, report.agentId ≠ agent := by
  rw [latestOf, List.getLast?_eq_none_iff, ofAgent, List.filter_eq_nil_iff]
  simp only [decide_eq_true_eq, ne_eq]

/-- The last report of an agent is one of its reports. -/
theorem mem_of_latestOf {agent : String} {reports : List Report} {latest : Report}
    (last : latestOf agent reports = some latest) : latest ∈ reports ∧ latest.agentId = agent := by
  have member : latest ∈ ofAgent agent reports := List.mem_of_getLast? last
  simpa only [ofAgent, List.mem_filter, decide_eq_true_eq] using member

/-- The lifetime of an agent's last report is the latest of all its lifetimes. -/
theorem startup_le_latest {reports : List Report} (orderly : Orderly reports) {agent : String}
    {latest : Report} (last : latestOf agent reports = some latest) :
    ∀ earlier ∈ reports, earlier.agentId = agent → earlier.startup.rank ≤ latest.startup.rank := by
  induction reports using List.reverseRecOn generalizing latest with
  | nil => exact fun _ member => nomatch member
  | append_singleton before report inductionHypothesis =>
    have ordered : Orderly before := orderly_of_isPrefix orderly (List.prefix_append before [report])
    rw [latestOf_concat] at last
    intro earlier member own
    rcases List.mem_append.mp member with inside | newest
    · by_cases same : report.agentId = agent
      · rw [if_pos same, Option.some.injEq] at last
        subst last
        cases known : latestOf agent before with
        | none => exact absurd own ((latestOf_eq_none_iff agent before).mp known earlier inside)
        | some previous =>
          have below := inductionHypothesis ordered known earlier inside own
          rw [← same] at known
          rcases orderly before report (List.prefix_refl _) previous known with continued | later
          · rw [continued.1]
            exact below
          · exact Int.le_trans below (Int.le_of_lt later)
      · rw [if_neg same] at last
        exact inductionHypothesis ordered last earlier inside own
    · rw [List.mem_singleton] at newest
      subst newest
      rw [if_pos own, Option.some.injEq] at last
      subst last
      exact Int.le_refl _

/-- Among orderly reports a report opens a new lifetime of a known agent just if its startup is later
than that of the agent's last report. -/
theorem opensLifetime_iff_later {reports : List Report} {report : Report}
    (orderly : Orderly (reports ++ [report])) :
    report.OpensLifetime reports ↔
      ∃ previous, latestOf report.agentId reports = some previous ∧
        previous.startup < report.startup := by
  have ordered : Orderly reports := orderly_of_isPrefix orderly (List.prefix_append reports [report])
  constructor
  · rintro ⟨⟨earlier, member, own⟩, new⟩
    cases known : latestOf report.agentId reports with
    | none => exact absurd own ((latestOf_eq_none_iff _ reports).mp known earlier member)
    | some previous =>
      obtain ⟨listed, agent⟩ := mem_of_latestOf known
      refine ⟨previous, rfl, ?_⟩
      exact (orderly reports report (List.prefix_refl _) previous known).resolve_left
        fun continued => new previous listed ⟨agent, continued.1.symm⟩
  · rintro ⟨previous, known, later⟩
    obtain ⟨listed, agent⟩ := mem_of_latestOf known
    refine ⟨⟨previous, listed, agent⟩, ?_⟩
    intro earlier member same
    have below := startup_le_latest ordered known earlier member same.1
    rw [same.2] at below
    exact absurd later (Int.not_lt.mpr below)

/-- In orderly reports a further report supersedes its agent's last one, if that is of the same
lifetime, and no other. -/
theorem supersededBy_of_orderly {reports : List Report} {report : Report}
    (orderly : Orderly (reports ++ [report])) :
    supersededBy report reports =
      (latestOf report.agentId reports).filter fun previous => previous.startup = report.startup := by
  have refined : (ofAgent report.agentId reports).filter (fun earlier => earlier.startup = report.startup) =
      reports.filter fun earlier => earlier.SameLifetime report := by
    rw [ofAgent, List.filter_filter]
    apply List.filter_congr
    intro earlier _
    rw [Bool.eq_iff_iff, Bool.and_eq_true]
    simp only [decide_eq_true_eq]
    exact and_comm
  have absent (other : ∀ earlier ∈ reports, ¬earlier.SameLifetime report) :
      supersededBy report reports = none := by
    rw [supersededBy, List.getLast?_eq_none_iff, List.filter_eq_nil_iff]
    simpa only [decide_eq_true_eq] using other
  cases known : latestOf report.agentId reports with
  | none =>
    exact absent fun earlier member same =>
      (latestOf_eq_none_iff _ reports).mp known earlier member same.1
  | some previous =>
    by_cases continued : previous.startup = report.startup
    · obtain ⟨before, ends⟩ := List.getLast?_eq_some_iff.mp known
      rw [supersededBy, ← refined, ends, List.filter_append]
      simp [continued, Option.filter]
    · have later : previous.startup < report.startup :=
        (orderly reports report (List.prefix_refl _) previous known).resolve_left
          fun continues => continued continues.1.symm
      rw [Option.filter_some_neg (by simpa using continued)]
      exact absent ((opensLifetime_iff_later orderly).mpr ⟨previous, known, later⟩).2

/-- What a report supersedes is a matter of its own agent's reports. -/
theorem supersededBy_ofAgent (report : Report) (reports : List Report) :
    supersededBy report (ofAgent report.agentId reports) = supersededBy report reports := by
  rw [supersededBy, ofAgent, List.filter_filter, supersededBy]
  congr 1
  apply List.filter_congr
  intro earlier _
  rw [Bool.eq_iff_iff, Bool.and_eq_true]
  simp only [decide_eq_true_eq]
  exact and_iff_left_of_imp And.left

end Report

end FleetTraffic
