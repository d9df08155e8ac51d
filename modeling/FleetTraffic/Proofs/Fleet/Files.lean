import FleetTraffic.Fleet.Incremental
import FleetTraffic.Fleet.Recomputing
import FleetTraffic.Proofs.Fleet.History
import FleetTraffic.Proofs.Fleet.Roster
import FleetTraffic.Proofs.SortedMap.Keys
import FleetTraffic.Proofs.Usage.Naming

/-!
# The file of one agent

The three maps of a roster are kept by agent, and what stands under one name makes up the file of that
agent. Both fleets treat their rosters alike, so an operation is described once, by what it does to a
roster. It works on the file of the agent that it names and on no other; an expiry works on every file by
itself. The file of an agent after a run is therefore a matter of the operations that name the agent and
of the expiries, whatever happens to the others in between.
-/

namespace FleetTraffic

namespace FleetOperation

/-- The agent that shows with an operation that it runs, and when it does. An expiry is no sign of anyone. -/
def sign? : FleetOperation → Option (String × Instant)
  | .report brought now => some (brought.agentId, now)
  | .touch agent now => some (agent, now)
  | .heartbeat description now => some (description.agentId, now)
  | .expire _ _ => none

/-- The agent that an operation names. -/
def agent? (operation : FleetOperation) : Option String := operation.sign?.map Prod.fst

end FleetOperation

/-- What a roster holds of one agent. -/
structure AgentFile where
  record : Option AgentRecord := none
  report : Option Report := none
  baseline : Option UsageTable := none

namespace AgentFile

/-- The file after a report, given the verdict on it. -/
def observe (file : AgentFile) (verdict : RestartVerdict) (keepsBaselines : Bool) (report : Report)
    (now : Instant) : AgentFile where
  record := some (Roster.updateRecord (file.record.getD (Roster.firstRecord report now)) report verdict now)
  report := some report
  baseline :=
    if verdict.restarted && keepsBaselines then
      match file.report with
      | none => file.baseline
      | some previous => some ((file.baseline.getD .empty).add previous.domains)
    else file.baseline

/-- The file with its record changed, if there is one. -/
def modify (file : AgentFile) (change : AgentRecord → AgentRecord) : AgentFile :=
  { file with record := file.record.map change }

/-- A file is coherent if it has a record exactly when it has a report, the record is active and bears the
agent's name, and a baseline is tidy and belongs to a known agent. -/
structure Coherent (file : AgentFile) (agent : String) : Prop where
  together : file.record.isSome = file.report.isSome
  own : ∀ record, file.record = some record → record.agentId = agent ∧ record.active = true
  known : file.baseline.isSome = true → file.record.isSome = true
  tidy : ∀ baseline, file.baseline = some baseline → baseline.Tidy

/-- An empty file is coherent. -/
theorem coherent_blank (agent : String) : Coherent {} agent :=
  ⟨rfl, fun _ => nofun, nofun, fun _ => nofun⟩

/-- A report keeps the file of its agent coherent, whatever the verdict on it. -/
theorem coherent_observe {file : AgentFile} {report : Report} (coherent : file.Coherent report.agentId)
    (verdict : RestartVerdict) (keepsBaselines : Bool) (now : Instant) :
    (file.observe verdict keepsBaselines report now).Coherent report.agentId := by
  refine ⟨rfl, ?_, fun _ => rfl, ?_⟩
  · intro record found
    simp only [observe, Option.some.injEq] at found
    subst found
    refine ⟨?_, rfl⟩
    cases present : file.record with
    | none => rfl
    | some before => exact (coherent.own before present).1
  · intro baseline found
    simp only [observe] at found
    split at found
    next =>
      cases last : file.report with
      | none =>
        rw [last] at found
        exact coherent.tidy baseline found
      | some previous =>
        simp only [last, Option.some.injEq] at found
        subst found
        apply UsageTable.tidy_add
        cases present : file.baseline with
        | none => exact UsageTable.tidy_empty
        | some before => exact coherent.tidy before present
    next => exact coherent.tidy baseline found

/-- A change that keeps the name in a record and leaves it active keeps its file coherent. -/
theorem coherent_modify {file : AgentFile} {agent : String} (coherent : file.Coherent agent)
    {change : AgentRecord → AgentRecord}
    (kept : ∀ record, (change record).agentId = record.agentId ∧ (change record).active = true) :
    (file.modify change).Coherent agent := by
  refine ⟨?_, ?_, ?_, coherent.tidy⟩
  · simp only [modify, Option.isSome_map, coherent.together]
  · intro record found
    obtain ⟨before, present, rfl⟩ := Option.map_eq_some_iff.mp found
    exact ⟨(kept before).1.trans (coherent.own before present).1, (kept before).2⟩
  · intro present
    rw [modify, Option.isSome_map]
    exact coherent.known present

end AgentFile

namespace Roster

/-- The file of an agent in a roster. -/
def fileOf (roster : Roster) (agent : String) : AgentFile where
  record := roster.records.get? agent
  report := roster.reports.get? agent
  baseline := roster.baselines.get? agent

/-- The answer to an operation and the roster after it. -/
def apply (roster : Roster) (options : FleetOptions) : FleetOperation → FleetAnswer × Roster
  | .report report now =>
    let (verdict, roster) := roster.observe options report now
    (.verdict verdict, roster)
  | .touch agent now =>
    let (known, roster) := roster.touch agent now
    (.known known, roster)
  | .heartbeat heartbeat now =>
    let (known, roster) := roster.introduce heartbeat now
    (.known known, roster)
  | .expire maxAge now =>
    let expired := roster.expiredAgents maxAge now
    (.forgotten expired, expired.foldl remove roster)

/-- The roster after a sequence of operations. -/
def run (options : FleetOptions) (operations : List FleetOperation) : Roster :=
  operations.foldl (fun roster operation => (roster.apply options operation).2) {}

/-- A run with one operation more. -/
theorem run_concat (options : FleetOptions) (operations : List FleetOperation)
    (last : FleetOperation) :
    run options (operations ++ [last]) = ((run options operations).apply options last).2 := by
  simp only [run, List.foldl_append, List.foldl_cons, List.foldl_nil]

/-! ## One file at a time -/

/-- Rosters with the same files are the same. -/
theorem ext_of_fileOf {first second : Roster}
    (same : ∀ agent, first.fileOf agent = second.fileOf agent) : first = second := by
  have parts (agent : String) := AgentFile.mk.inj (same agent)
  have records : first.records = second.records := SortedMap.ext fun agent => (parts agent).1
  have reports : first.reports = second.reports := SortedMap.ext fun agent => (parts agent).2.1
  have baselines : first.baselines = second.baselines := SortedMap.ext fun agent => (parts agent).2.2
  cases first
  cases second
  simp_all

/-- The verdict on a report is a matter of the file of its agent. -/
theorem detect_congr {first second : Roster} {report : Report}
    (same : first.fileOf report.agentId = second.fileOf report.agentId) (options : FleetOptions) :
    first.detect options report = second.detect options report := by
  obtain ⟨records, reports, _⟩ := AgentFile.mk.inj same
  simp only [detect, records, reports]

/-- What an agent contributes is a matter of its file. -/
theorem contribution_congr {first second : Roster} {agent : String}
    (same : first.fileOf agent = second.fileOf agent) :
    first.contribution agent = second.contribution agent := by
  obtain ⟨_, reports, baselines⟩ := AgentFile.mk.inj same
  simp only [contribution, reports, baselines]

/-- A report changes the file of its agent alone. -/
theorem fileOf_observe (roster : Roster) (options : FleetOptions) (report : Report) (now : Instant)
    (agent : String) :
    (roster.observe options report now).2.fileOf agent =
      if agent = report.agentId then
        (roster.fileOf agent).observe (roster.detect options report) options.keepsBaselines report now
      else roster.fileOf agent := by
  by_cases own : agent = report.agentId
  · subst own
    simp only [fileOf, observe, AgentFile.observe, SortedMap.get?_insert, SortedMap.get?_alter, if_true,
      AgentFile.mk.injEq, true_and]
    split
    next =>
      rw [carryForward]
      cases roster.reports.get? report.agentId with
      | none => rfl
      | some previous => simp only [SortedMap.get?_alter, if_true]
    next => rfl
  · simp only [fileOf, observe, SortedMap.get?_insert, SortedMap.get?_alter, if_neg own,
      AgentFile.mk.injEq, true_and]
    split
    next =>
      rw [carryForward]
      cases roster.reports.get? report.agentId with
      | none => rfl
      | some previous => simp only [SortedMap.get?_alter, if_neg own]
    next => rfl

/-- Changing a record changes the file of its agent alone. -/
theorem fileOf_modify (roster : Roster) (name agent : String) (change : AgentRecord → AgentRecord) :
    fileOf { roster with records := roster.records.modify name change } agent =
      if agent = name then (roster.fileOf agent).modify change else roster.fileOf agent := by
  simp only [fileOf, SortedMap.modify, SortedMap.get?_alter, AgentFile.modify]
  split
  next same => rw [same]
  next => rfl

/-- Forgetting an agent empties its file and leaves the others. -/
theorem fileOf_remove (roster : Roster) (name agent : String) :
    (roster.remove name).fileOf agent = if agent = name then {} else roster.fileOf agent := by
  simp only [fileOf, remove, SortedMap.get?_erase]
  split
  next => rfl
  next => rfl

/-- Forgetting agents empties their files and leaves the others. -/
theorem fileOf_foldl_remove (agents : List String) (roster : Roster) (agent : String) :
    (agents.foldl remove roster).fileOf agent = if agent ∈ agents then {} else roster.fileOf agent := by
  induction agents generalizing roster with
  | nil => simp
  | cons name rest inductionHypothesis =>
    rw [List.foldl_cons, inductionHypothesis, fileOf_remove]
    by_cases listed : agent ∈ rest
    · simp [listed]
    · simp [listed]

/-! ## Coherent files -/

/-- Every file of the roster is coherent. -/
def Coherent (roster : Roster) : Prop := ∀ agent, (roster.fileOf agent).Coherent agent

variable {roster first second : Roster}

/-- The records that pass a test, told by their agents in the order of their names. -/
theorem agents_of_records (coherent : roster.Coherent) (test : AgentRecord → Bool) :
    (roster.records.values.filter test).map AgentRecord.agentId =
      (roster.records.filter fun _ record => test record).keys :=
  roster.records.keys_filter_of_told
    (fun agent record found => ((coherent agent).own record found).1) test

/-- An agent is expired exactly when its record is. -/
theorem mem_expiredAgents_iff (coherent : roster.Coherent) (maxAge : Duration) (now : Instant)
    (agent : String) :
    agent ∈ roster.expiredAgents maxAge now ↔
      ∃ record, (roster.fileOf agent).record = some record ∧ isExpired record maxAge now = true := by
  rw [expiredAgents, agents_of_records coherent, SortedMap.mem_keys_iff]
  simp only [SortedMap.get?_filter, Option.filter_eq_some_iff, fileOf]

/-- The empty roster is coherent. -/
theorem coherent_empty : Coherent {} := AgentFile.coherent_blank

/-- Changing a record otherwise than in its name and its activity keeps the roster coherent. -/
theorem coherent_modify (coherent : roster.Coherent) (name : String)
    {change : AgentRecord → AgentRecord}
    (kept : ∀ record, (change record).agentId = record.agentId ∧ (change record).active = true) :
    Coherent { roster with records := roster.records.modify name change } := by
  intro agent
  rw [fileOf_modify]
  split
  next => exact AgentFile.coherent_modify (coherent agent) kept
  next => exact coherent agent

/-- Every operation keeps the roster coherent. -/
theorem coherent_apply (coherent : roster.Coherent) (options : FleetOptions)
    (operation : FleetOperation) : (roster.apply options operation).2.Coherent := by
  cases operation with
  | report report now =>
    intro agent
    rw [apply, fileOf_observe]
    split
    next own =>
      subst own
      exact AgentFile.coherent_observe (coherent report.agentId) _ _ now
    next => exact coherent agent
  | touch agent now => exact coherent_modify coherent agent fun _ => ⟨rfl, rfl⟩
  | heartbeat heartbeat now => exact coherent_modify coherent heartbeat.agentId fun _ => ⟨rfl, rfl⟩
  | expire maxAge now =>
    intro agent
    rw [apply, fileOf_foldl_remove]
    split
    next => exact AgentFile.coherent_blank agent
    next => exact coherent agent

/-- The roster is coherent after every run. -/
theorem coherent_run (options : FleetOptions) (operations : List FleetOperation) :
    (run options operations).Coherent := by
  induction operations using List.reverseRecOn with
  | nil => exact coherent_empty
  | append_singleton before last inductionHypothesis =>
    rw [run_concat]
    exact coherent_apply inductionHypothesis options last

/-! ## What an operation does to one file -/

/-- What an operation makes of a file is a matter of that file. -/
theorem fileOf_apply_congr (coherent : first.Coherent) (coherent' : second.Coherent) {agent : String}
    (same : first.fileOf agent = second.fileOf agent) (options : FleetOptions)
    (operation : FleetOperation) :
    (first.apply options operation).2.fileOf agent = (second.apply options operation).2.fileOf agent := by
  cases operation with
  | report report now =>
    simp only [apply, fileOf_observe]
    by_cases own : agent = report.agentId
    · subst own
      rw [if_pos rfl, if_pos rfl, same, detect_congr same]
    · rw [if_neg own, if_neg own, same]
  | touch name now => simp only [apply, touch, fileOf_modify, same]
  | heartbeat heartbeat now => simp only [apply, introduce, fileOf_modify, same]
  | expire maxAge now =>
    simp only [apply, fileOf_foldl_remove, mem_expiredAgents_iff coherent,
      mem_expiredAgents_iff coherent', same]

/-- An operation that names another agent leaves a file alone. -/
theorem fileOf_apply_other (roster : Roster) (options : FleetOptions) {operation : FleetOperation}
    {agent name : String} (named : operation.agent? = some name) (other : agent ≠ name) :
    (roster.apply options operation).2.fileOf agent = roster.fileOf agent := by
  cases operation with
  | report report now =>
    cases named
    rw [apply, fileOf_observe, if_neg other]
  | touch touched now =>
    cases named
    rw [apply, touch, fileOf_modify, if_neg other]
  | heartbeat heartbeat now =>
    cases named
    rw [apply, introduce, fileOf_modify, if_neg other]
  | expire maxAge now => cases named

/-- An operation that does not name an agent leaves its file alone or empties it. -/
theorem fileOf_apply_unnamed (roster : Roster) (options : FleetOptions) {operation : FleetOperation}
    {agent : String} (unnamed : operation.agent? ≠ some agent) :
    (roster.apply options operation).2.fileOf agent = roster.fileOf agent ∨
      (roster.apply options operation).2.fileOf agent = {} := by
  cases operation with
  | expire maxAge now =>
    rw [apply, fileOf_foldl_remove]
    split
    next => exact .inr rfl
    next => exact .inl rfl
  | _ => exact .inl (fileOf_apply_other roster options rfl fun same => unnamed (congrArg some same.symm))

/-- Leaving out operations that name other agents does not change an agent's file. -/
theorem fileOf_run_filter (options : FleetOptions) (operations : List FleetOperation) {agent : String}
    {keep : FleetOperation → Bool}
    (dropped : ∀ operation ∈ operations, keep operation = false →
      ∃ name, operation.agent? = some name ∧ agent ≠ name) :
    (run options (operations.filter keep)).fileOf agent = (run options operations).fileOf agent := by
  induction operations using List.reverseRecOn with
  | nil => rfl
  | append_singleton before last inductionHypothesis =>
    have same := inductionHypothesis fun operation member =>
      dropped operation (List.mem_append_left _ member)
    rw [List.filter_append, run_concat]
    -- A kept operation does the same to the same file, a dropped one is about another agent.
    cases kept : keep last with
    | true =>
      simp only [List.filter_cons, kept, if_true, List.filter_nil, run_concat]
      exact fileOf_apply_congr (coherent_run _ _) (coherent_run _ _) same options last
    | false =>
      have listed : last ∈ before ++ [last] := List.mem_append_right _ (List.mem_singleton_self last)
      obtain ⟨name, named, other⟩ := dropped last listed kept
      simp only [List.filter_cons, kept, Bool.false_eq_true, if_false, List.filter_nil, List.append_nil]
      rw [same, fileOf_apply_other _ options named other]

/-- An agent that no operation names has an empty file. -/
theorem fileOf_run_unnamed (options : FleetOptions) (operations : List FleetOperation) {agent : String}
    (unnamed : ∀ operation ∈ operations, operation.agent? ≠ some agent) :
    (run options operations).fileOf agent = {} := by
  induction operations using List.reverseRecOn with
  | nil => rfl
  | append_singleton before last inductionHypothesis =>
    have blank := inductionHypothesis fun operation member =>
      unnamed operation (List.mem_append_left _ member)
    have other := unnamed last (List.mem_append_right _ (List.mem_singleton_self last))
    rw [run_concat]
    rcases fileOf_apply_unnamed (run options before) options other with same | gone
    · exact same.trans blank
    · exact gone

end Roster

/-! ## The rosters of both fleets -/

namespace IncrementalFleet

/-- An incremental fleet answers as its roster does, and changes it in the same way. -/
theorem apply_roster (fleet : IncrementalFleet) (options : FleetOptions) (operation : FleetOperation) :
    ((fleet.apply options operation).1, (fleet.apply options operation).2.roster) =
      fleet.roster.apply options operation := by
  have forgotten (agents : List String) (fleet : IncrementalFleet) :
      (agents.foldl forget fleet).roster = agents.foldl Roster.remove fleet.roster := by
    induction agents generalizing fleet with
    | nil => rfl
    | cons agent rest inductionHypothesis => exact inductionHypothesis (fleet.forget agent)
  cases operation with
  | report report now => rfl
  | touch agent now => rfl
  | heartbeat heartbeat now => rfl
  | expire maxAge now => exact congrArg (Prod.mk _) (forgotten _ fleet)

/-- The roster of an incremental fleet is the run of its operations. -/
theorem roster_run (options : FleetOptions) (operations : List FleetOperation) :
    (run options operations).roster = Roster.run options operations := by
  induction operations using List.reverseRecOn with
  | nil => rfl
  | append_singleton before last inductionHypothesis =>
    have step := congrArg Prod.snd (apply_roster (run options before) options last)
    rw [run_concat, Roster.run_concat, ← inductionHypothesis]
    exact step

end IncrementalFleet

/-- A recomputing fleet answers as its roster does, and changes it in the same way. -/
theorem RecomputingFleet.apply_roster (fleet : RecomputingFleet) (options : FleetOptions)
    (operation : FleetOperation) :
    ((fleet.apply options operation).1, (fleet.apply options operation).2.roster) =
      fleet.roster.apply options operation := by
  cases operation <;> rfl

end FleetTraffic
