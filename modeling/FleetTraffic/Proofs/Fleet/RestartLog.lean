import FleetTraffic.Proofs.Fleet.Representation
import FleetTraffic.Proofs.Usage.Merging

/-!
# The log of restarts

What a roster knows of an agent can be told from the verdicts that it gave on the agent's reports since the
agent registered, without a look at the roster. The number of restarts is the number of verdicts that said so,
the startup is that of the last report so judged, and what the agent contributes is what its reports say that
stood right before such a verdict, together with the latest one. Nothing is asked of the reports: startups may
go back, counters may fall and stop at the greatest one.
-/

namespace FleetTraffic

/-- A call that changes a roster. -/
inductive RosterCall where
  /-- A report is taken in. -/
  | observe (report : Report) (now : Instant)
  /-- An agent was heard from. -/
  | touch (agent : String) (now : Instant)
  /-- An agent was heard from and described itself. -/
  | introduce (heartbeat : Heartbeat) (now : Instant)
  /-- An agent is forgotten. -/
  | remove (agent : String)

/-- A report of an agent with the verdict on it. -/
structure Visit where
  report : Report
  verdict : RestartVerdict

namespace Visit

/-- The visits that were judged restarts. -/
def flagged (visits : List Visit) : List Visit := visits.filter fun visit => visit.verdict.restarted

/-- The startups that the visits make known: the one of the first visit, and that of each restart. -/
def startups (visits : List Visit) : List Instant :=
  (visits.head?.toList ++ flagged visits).map fun visit => visit.report.startup

/-- The reports right before a visit that was judged a restart. -/
def carried : List Visit → List Report
  | [] => []
  | [_] => []
  | first :: next :: rest =>
    if next.verdict.restarted then first.report :: carried (next :: rest) else carried (next :: rest)

/-- The reports whose traffic counts: those right before a restart, and the latest one. -/
def counted (visits : List Visit) : List Report :=
  carried visits ++ (visits.getLast?.map Visit.report).toList

/-- One visit more carries the latest report over if it was judged a restart. -/
theorem carried_concat (visits : List Visit) (visit : Visit) :
    carried (visits ++ [visit]) =
      carried visits ++
        if visit.verdict.restarted then (visits.getLast?.map Visit.report).toList else [] := by
  induction visits using carried.induct with
  | case1 => simp [carried]
  | case2 only => simp [carried]
  | case3 first next rest restarted induction =>
    simp only [List.cons_append] at induction ⊢
    rw [carried, if_pos restarted, induction, carried, if_pos restarted, List.getLast?_cons_cons,
      List.cons_append]
  | case4 first next rest steady induction =>
    simp only [List.cons_append] at induction ⊢
    rw [carried, if_neg steady, induction, carried, if_neg steady, List.getLast?_cons_cons]

/-- One visit more is flagged if it was judged a restart. -/
theorem flagged_concat (visits : List Visit) (visit : Visit) :
    flagged (visits ++ [visit]) = flagged visits ++ if visit.verdict.restarted then [visit] else [] := by
  rw [flagged, List.filter_append, List.filter_cons, List.filter_nil, flagged]

/-- A visit that is not the first one makes its startup known if it was judged a restart. -/
theorem startups_concat {visits : List Visit} (visited : visits ≠ []) (visit : Visit) :
    startups (visits ++ [visit]) =
      startups visits ++ if visit.verdict.restarted then [visit.report.startup] else [] := by
  rw [startups, flagged_concat, List.head?_append_of_ne_nil _ visited, ← List.append_assoc, List.map_append,
    startups]
  split <;> rfl

/-- There is a startup for the first visit and one for each restart. -/
theorem length_startups {visits : List Visit} (visited : visits ≠ []) :
    (startups visits).length = (flagged visits).length + 1 := by
  cases visits with
  | nil => exact absurd rfl visited
  | cons first rest => simp [startups, Nat.add_comm]

/-- No startup is known just if there was no visit. -/
theorem startups_eq_nil_iff (visits : List Visit) : startups visits = [] ↔ visits = [] := by
  cases visits with
  | nil => simp [startups, flagged]
  | cons first rest => simp [startups]

/-- The restarts among the visits are numbered from one on. Each names the startup of its report, and as the
previous one that which was known last. -/
def Numbered (visits : List Visit) : Prop :=
  ∀ (place : Nat) (visit : Visit), (flagged visits)[place]? = some visit →
    visit.verdict.restarts = UInt32.ofNat (place + 1) ∧ visit.verdict.startup = visit.report.startup ∧
      visit.verdict.previousStartup = (startups visits)[place]?

/-- No visits are numbered. -/
theorem numbered_nil : Visit.Numbered [] := fun _ _ => nofun

/-- A visit that was no restart leaves the numbers as they are. -/
theorem numbered_concat_steady {visits : List Visit} (numbered : Numbered visits) {visit : Visit}
    (steady : visit.verdict.restarted = false) : Numbered (visits ++ [visit]) := by
  have same : flagged (visits ++ [visit]) = flagged visits := by simp [flagged_concat, steady]
  intro place other found
  rw [same] at found
  by_cases visited : visits = []
  · subst visited
    cases found
  · rw [startups_concat visited, steady]
    simpa using numbered place other found

/-- A further restart gets the next number. -/
theorem numbered_concat_restart {visits : List Visit} (numbered : Numbered visits)
    (visited : visits ≠ []) {visit : Visit} (restarted : visit.verdict.restarted = true)
    (number : visit.verdict.restarts = UInt32.ofNat ((flagged visits).length + 1))
    (startup : visit.verdict.startup = visit.report.startup)
    (previous : visit.verdict.previousStartup = (startups visits).getLast?) :
    Numbered (visits ++ [visit]) := by
  have count := length_startups visited
  intro place other found
  rw [flagged_concat, restarted, if_pos rfl] at found
  rw [startups_concat visited]
  rcases Nat.lt_trichotomy place (flagged visits).length with earlier | rfl | beyond
  · rw [List.getElem?_append_left earlier] at found
    rw [List.getElem?_append_left (by omega)]
    exact numbered place other found
  · rw [List.getElem?_concat_length, Option.some.injEq] at found
    subst found
    rw [List.getElem?_append_left (by omega)]
    refine ⟨number, startup, ?_⟩
    rw [previous, List.getLast?_eq_getElem?, count, Nat.add_sub_cancel]
  · have outside : (flagged visits ++ [visit]).length ≤ place := by
      rw [List.length_append, List.length_singleton]
      omega
    rw [List.getElem?_eq_none outside] at found
    cases found

end Visit

/-! ## The log beside the roster -/

namespace Roster

/-- The roster after a call. -/
def after (roster : Roster) (options : FleetOptions) : RosterCall → Roster
  | .observe report now => (roster.observe options report now).2
  | .touch agent now => (roster.touch agent now).2
  | .introduce heartbeat now => (roster.introduce heartbeat now).2
  | .remove agent => roster.remove agent

/-- The visits of an agent since it registered, after a call on a roster that had seen the given ones. -/
def visitsAfter (roster : Roster) (options : FleetOptions) (agent : String) (visits : List Visit) :
    RosterCall → List Visit
  | .observe report now =>
    if report.agentId = agent then visits ++ [⟨report, (roster.observe options report now).1⟩] else visits
  | .touch _ _ | .introduce _ _ => visits
  | .remove name => if name = agent then [] else visits

/-- The roster after a sequence of calls on an empty one. -/
def afterAll (options : FleetOptions) (calls : List RosterCall) : Roster :=
  calls.foldl (fun roster call => roster.after options call) {}

/-- The visits of an agent since its latest registration: all its reports since then, with the verdicts that
the calls gave. -/
def visitsOf (options : FleetOptions) (agent : String) (calls : List RosterCall) : List Visit :=
  (calls.foldl (fun (state : Roster × List Visit) call =>
    (state.1.after options call, state.1.visitsAfter options agent state.2 call)) ({}, [])).2

/-- A sequence with one call more. -/
theorem afterAll_concat (options : FleetOptions) (calls : List RosterCall) (last : RosterCall) :
    afterAll options (calls ++ [last]) = (afterAll options calls).after options last := by
  simp only [afterAll, List.foldl_append, List.foldl_cons, List.foldl_nil]

/-- The visits after one call more. -/
theorem visitsOf_concat (options : FleetOptions) (agent : String) (calls : List RosterCall)
    (last : RosterCall) :
    visitsOf options agent (calls ++ [last]) =
      (afterAll options calls).visitsAfter options agent (visitsOf options agent calls) last := by
  have roster : ∀ state : Roster × List Visit,
      (calls.foldl (fun (state : Roster × List Visit) call =>
        (state.1.after options call, state.1.visitsAfter options agent state.2 call)) state).1 =
        calls.foldl (fun roster call => roster.after options call) state.1 := by
    induction calls with
    | nil => exact fun _ => rfl
    | cons call rest inductionHypothesis => exact fun state => inductionHypothesis _
  simp only [visitsOf, afterAll, List.foldl_append, List.foldl_cons, List.foldl_nil, roster]

/-- A call keeps the roster coherent. -/
theorem coherent_after {roster : Roster} (coherent : roster.Coherent) (options : FleetOptions)
    (call : RosterCall) : (roster.after options call).Coherent := by
  cases call with
  | observe report now => exact coherent_apply coherent options (.report report now)
  | touch agent now => exact coherent_apply coherent options (.touch agent now)
  | introduce heartbeat now => exact coherent_apply coherent options (.heartbeat heartbeat now)
  | remove agent =>
    intro probe
    rw [after, fileOf_remove]
    split
    next => exact AgentFile.coherent_blank probe
    next => exact coherent probe

/-- The roster is coherent after any calls. -/
theorem coherent_afterAll (options : FleetOptions) (calls : List RosterCall) :
    (afterAll options calls).Coherent := by
  induction calls using List.reverseRecOn with
  | nil => exact coherent_empty
  | append_singleton before last inductionHypothesis =>
    rw [afterAll_concat]
    exact coherent_after inductionHypothesis options last

/-- The verdict on a report of a known agent: no restart, or a restart that gets the next number. -/
theorem detect_known {roster : Roster} {report : Report} {record : AgentRecord}
    (known : roster.records.get? report.agentId = some record) (options : FleetOptions) :
    roster.detect options report = .none report.startup ∨
      ∃ reason, roster.detect options report = .restart record report.startup reason := by
  simp only [detect, known]
  split
  next =>
    split
    next => exact .inr ⟨_, rfl⟩
    next =>
      split
      next => exact .inl rfl
      next =>
        split
        next => exact .inr ⟨_, rfl⟩
        next => exact .inl rfl
  next => exact .inl rfl

/-- The file of an agent is as the visits of the agent say: the latest report is that of the last visit, the
record tells the startup that was made known last and the number of restarts, and the baseline is what the
reports before the restarts add up to. -/
structure Logs (file : AgentFile) (visits : List Visit) : Prop where
  latest : file.report = visits.getLast?.map Visit.report
  record : (file.record.map fun record => (record.lastStartup, record.restarts)) =
    (Visit.startups visits).getLast?.map fun startup =>
      (startup, UInt32.ofNat (Visit.flagged visits).length)
  baseline : file.baseline.getD .empty =
    ((Visit.carried visits).map Report.domains).foldl UsageTable.add .empty

/-- The file of an agent without visits. -/
theorem logs_nil : Logs {} [] := ⟨rfl, rfl, rfl⟩

/-- A change that leaves the startup and the number of restarts in a record leaves the file as the visits
say. -/
theorem logs_modify {file : AgentFile} {visits : List Visit} (logs : Logs file visits)
    {change : AgentRecord → AgentRecord}
    (kept : ∀ record, (change record).lastStartup = record.lastStartup ∧
      (change record).restarts = record.restarts) : Logs (file.modify change) visits := by
  refine ⟨logs.latest, ?_, logs.baseline⟩
  rw [AgentFile.modify, Option.map_map, ← logs.record]
  congr 1
  funext record
  exact Prod.ext (kept record).1 (kept record).2

/-- An agent has visits just if it has a record. -/
theorem visited_of_known {file : AgentFile} {visits : List Visit} (logs : Logs file visits)
    {record : AgentRecord} (known : file.record = some record) :
    visits ≠ [] ∧ (Visit.startups visits).getLast? = some record.lastStartup ∧
      record.restarts = UInt32.ofNat (Visit.flagged visits).length := by
  have told := logs.record
  rw [known, Option.map_some] at told
  obtain ⟨startup, last, same⟩ := Option.map_eq_some_iff.mp told.symm
  obtain ⟨rfl, restarts⟩ := Prod.mk.inj same
  refine ⟨?_, last, restarts.symm⟩
  rintro rfl
  cases last

/-- A report that was no restart takes the place of the latest one and leaves the rest. -/
theorem logs_observe_steady {file : AgentFile} {visits : List Visit} {report : Report}
    (logs : Logs file visits) (keepsBaselines : Bool) (now : Instant) :
    Logs (file.observe (.none report.startup) keepsBaselines report now)
      (visits ++ [⟨report, .none report.startup⟩]) := by
  refine ⟨?_, ?_, ?_⟩
  · rw [List.getLast?_concat]
    rfl
  · rw [Visit.flagged_concat, AgentFile.observe, Option.map_some]
    cases known : file.record with
    | none =>
      have told := logs.record
      rw [known, Option.map_none, eq_comm, Option.map_eq_none_iff, List.getLast?_eq_none_iff,
        Visit.startups_eq_nil_iff] at told
      subst told
      rfl
    | some record =>
      obtain ⟨visited, last, restarts⟩ := visited_of_known logs known
      rw [Visit.startups_concat visited]
      simp [RestartVerdict.none, updateRecord, last, restarts]
  · rw [Visit.carried_concat]
    simpa [AgentFile.observe, RestartVerdict.none] using logs.baseline

/-- A report that was a restart makes its startup known, counts as one restart more, and leaves the report
before it in the baseline. -/
theorem logs_observe_restart {file : AgentFile} {visits : List Visit} {report : Report}
    {record : AgentRecord} (logs : Logs file visits) (known : file.record = some record)
    (reason : RestartReason) (now : Instant) :
    Logs (file.observe (.restart record report.startup reason) true report now)
      (visits ++ [⟨report, .restart record report.startup reason⟩]) := by
  obtain ⟨visited, last, restarts⟩ := visited_of_known logs known
  refine ⟨?_, ?_, ?_⟩
  · rw [List.getLast?_concat]
    rfl
  · rw [Visit.flagged_concat, Visit.startups_concat visited, AgentFile.observe, known]
    simp [RestartVerdict.restart, updateRecord, restarts, UInt32.ofNat_add]
  · have latest := logs.latest
    rw [Visit.carried_concat, AgentFile.observe, latest]
    cases sooner : visits.getLast? with
    | none => exact absurd (List.getLast?_eq_none_iff.mp sooner) visited
    | some visit => simp [RestartVerdict.restart, logs.baseline]

/-- After a report its agent's file is as the visits say, with the verdict on the report as one visit more. -/
theorem logs_observe {roster : Roster} {options : FleetOptions} {report : Report} {visits : List Visit}
    (logs : Logs (roster.fileOf report.agentId) visits) (numbered : Visit.Numbered visits)
    (keeps : options.keepsBaselines = true) (now : Instant) :
    let visit : Visit := ⟨report, roster.detect options report⟩
    Logs ((roster.observe options report now).2.fileOf report.agentId) (visits ++ [visit]) ∧
      Visit.Numbered (visits ++ [visit]) := by
  intro visit
  rw [fileOf_observe, if_pos rfl, keeps]
  have steadily (steady : roster.detect options report = .none report.startup) :
      Logs ((roster.fileOf report.agentId).observe (roster.detect options report) true report now)
          (visits ++ [visit]) ∧ Visit.Numbered (visits ++ [visit]) := by
    simp only [visit, steady]
    exact ⟨logs_observe_steady logs true now, Visit.numbered_concat_steady numbered rfl⟩
  cases known : roster.records.get? report.agentId with
  | none =>
    apply steadily
    simp only [detect, known]
    exact ite_self _
  | some record =>
    rcases detect_known known options with steady | ⟨reason, restarted⟩
    · exact steadily steady
    · obtain ⟨visited, last, restarts⟩ := visited_of_known logs known
      simp only [visit, restarted]
      refine ⟨logs_observe_restart logs known reason now,
        Visit.numbered_concat_restart numbered visited rfl ?_ rfl last.symm⟩
      simp [RestartVerdict.restart, restarts, UInt32.ofNat_add]

/-- Whatever the calls were, the file of an agent is as its visits say, and these are numbered. -/
theorem logs_afterAll {options : FleetOptions} (keeps : options.keepsBaselines = true)
    (calls : List RosterCall) (agent : String) :
    Logs ((afterAll options calls).fileOf agent) (visitsOf options agent calls) ∧
      Visit.Numbered (visitsOf options agent calls) := by
  induction calls using List.reverseRecOn with
  | nil => exact ⟨logs_nil, Visit.numbered_nil⟩
  | append_singleton before last inductionHypothesis =>
    obtain ⟨logs, numbered⟩ := inductionHypothesis
    rw [afterAll_concat, visitsOf_concat]
    cases last with
    | observe report now =>
      by_cases own : report.agentId = agent
      · subst own
        rw [after, visitsAfter, if_pos rfl]
        exact logs_observe logs numbered keeps now
      · rw [after, visitsAfter, if_neg own, fileOf_observe, if_neg (Ne.symm own)]
        exact ⟨logs, numbered⟩
    | touch name now =>
      rw [after, visitsAfter, touch, fileOf_modify]
      refine ⟨?_, numbered⟩
      split
      next => exact logs_modify logs fun _ => ⟨rfl, rfl⟩
      next => exact logs
    | introduce heartbeat now =>
      rw [after, visitsAfter, introduce, fileOf_modify]
      refine ⟨?_, numbered⟩
      split
      next => exact logs_modify logs fun _ => ⟨rfl, rfl⟩
      next => exact logs
    | remove name =>
      rw [after, visitsAfter, fileOf_remove]
      by_cases gone : agent = name
      · rw [if_pos gone, if_pos gone.symm]
        exact ⟨logs_nil, Visit.numbered_nil⟩
      · rw [if_neg gone, if_neg (Ne.symm gone)]
        exact ⟨logs, numbered⟩

/-- The log of restarts determines what a roster that keeps baselines knows of an agent, after any calls. Of a
known agent's visits since its latest registration those that were judged restarts are as many as its record
tells; they are numbered from one on, each with the startup of its report and with the one that was known
before it; the last startup that was made known is that of the record; and what the agent contributes to a
domain is what the reports right before the restarts, and then the latest one, come to when they are merged. -/
theorem told_by_restart_log {options : FleetOptions} (keeps : options.keepsBaselines = true)
    (calls : List RosterCall) {agent : String} {record : AgentRecord}
    (known : (afterAll options calls).records.get? agent = some record)
    (few : (Visit.flagged (visitsOf options agent calls)).length < 4294967296) :
    let visits := visitsOf options agent calls
    visits ≠ [] ∧ record.restarts.toNat = (Visit.flagged visits).length ∧
      (∀ (place : Nat) (visit : Visit), (Visit.flagged visits)[place]? = some visit →
        visit.verdict.restarts.toNat = place + 1 ∧ visit.verdict.startup = visit.report.startup ∧
          visit.verdict.previousStartup = (Visit.startups visits)[place]?) ∧
      some record.lastStartup = (Visit.startups visits).getLast? ∧
      ∀ domain, ((afterAll options calls).contribution agent).get? domain =
        DomainUsage.mergeAll? domain
          ((Visit.counted visits).filterMap fun report => report.domains.get? domain) := by
  intro visits
  obtain ⟨logs, numbered⟩ := logs_afterAll keeps calls agent
  obtain ⟨visited, last, restarts⟩ := visited_of_known logs known
  refine ⟨visited, ?_, ?_, last.symm, ?_⟩
  · rw [restarts, UInt32.toNat_ofNat_of_lt' few]
  · intro place visit found
    obtain ⟨number, startup, previous⟩ := numbered place visit found
    have inside := (List.getElem?_eq_some_iff.mp found).1
    refine ⟨?_, startup, previous⟩
    rw [number, UInt32.toNat_ofNat_of_lt' (Nat.lt_of_le_of_lt inside few)]
  · intro domain
    have latest : (afterAll options calls).reports.get? agent = visits.getLast?.map Visit.report := logs.latest
    have baseline : (afterAll options calls).baselineOf agent =
      ((Visit.carried visits).map Report.domains).foldl UsageTable.add .empty := logs.baseline
    obtain ⟨final, ends⟩ := Option.ne_none_iff_exists'.mp (mt List.getLast?_eq_none_iff.mp visited)
    rw [contribution_eq_add (coherent_afterAll options calls), baseline, reportedBy, latest, Visit.counted,
      ends]
    have whole : (((Visit.carried visits).map Report.domains).foldl UsageTable.add .empty).add
        final.report.domains =
          ((Visit.carried visits ++ [final.report]).map Report.domains).foldl UsageTable.add .empty := by
      rw [List.map_append, List.foldl_append]
      rfl
    simp only [Option.map_some, Option.getD_some, Option.toList_some]
    rw [whole, UsageTable.get?_foldl_add, List.filterMap_map]
    rfl

/-- An agent is forgotten and registers anew. It restarts with a later startup and a counter that fills up, and
again with an earlier startup and a smaller counter. -/
def forgottenAndBack : List RosterCall :=
  [.observe (.single "a" (.early 9) "x.org" 7) (.early 10),
    .remove "a",
    .observe (.single "a" (.early 0) "x.org" 10) (.early 11),
    .touch "a" (.early 12),
    .observe (.single "a" (.early 5) "y.org" 18446744073709551615) (.early 13),
    .observe (.single "a" (.early 2) "y.org" 3) (.early 14)]

/-- The agent that came back has restarted twice, and all its reports since then count. -/
theorem forgottenAndBack_told :
    ∃ record, (afterAll IncrementalFleet.usualOptions forgottenAndBack).records.get? "a" = some record ∧
      record.restarts.toNat = 2 ∧ record.lastStartup = .early 2 ∧
      ∀ domain,
        ((afterAll IncrementalFleet.usualOptions forgottenAndBack).contribution "a").get? domain =
          DomainUsage.mergeAll? domain
            ([Report.single "a" (.early 0) "x.org" 10,
              Report.single "a" (.early 5) "y.org" 18446744073709551615,
              Report.single "a" (.early 2) "y.org" 3].filterMap fun report => report.domains.get? domain) := by
  have registered : ((afterAll IncrementalFleet.usualOptions forgottenAndBack).records.get? "a").isSome =
      true := by decide +kernel
  obtain ⟨record, known⟩ := Option.isSome_iff_exists.mp registered
  have twice : (Visit.flagged (visitsOf IncrementalFleet.usualOptions "a" forgottenAndBack)).length = 2 := by
    decide +kernel
  obtain ⟨_, restarts, _, startup, contribution⟩ :=
    told_by_restart_log (rfl : IncrementalFleet.usualOptions.keepsBaselines = true) forgottenAndBack known
      (by rw [twice]; decide)
  have startups : (Visit.startups (visitsOf IncrementalFleet.usualOptions "a" forgottenAndBack)).getLast? =
      some (.early 2) := by decide +kernel
  have counted : Visit.counted (visitsOf IncrementalFleet.usualOptions "a" forgottenAndBack) =
      [Report.single "a" (.early 0) "x.org" 10,
        Report.single "a" (.early 5) "y.org" 18446744073709551615,
        Report.single "a" (.early 2) "y.org" 3] := by decide +kernel
  rw [twice] at restarts
  rw [startups, Option.some.injEq] at startup
  rw [counted] at contribution
  exact ⟨record, known, restarts, startup, contribution⟩

end Roster

end FleetTraffic
