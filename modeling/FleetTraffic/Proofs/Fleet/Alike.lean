import FleetTraffic.Proofs.Fleet.KeptSums

/-!
# Fleets that nobody can tell apart

Two fleets are alike if they differ at most in the sums that they keep, and keep none that are out of date. They
answer every question in the same way, whatever the ages of what they keep, and every operation leaves them
alike. A question can only change what is kept, so it leaves a fleet like the one that was not asked.
-/

namespace FleetTraffic

namespace Fleet

/-- The fleet after a question about its sums. -/
def asked (age : Nat) (now : Instant) : Fleet → Fleet
  | .incremental options fleet => .incremental options fleet
  | .recomputing options keep fleet =>
    .recomputing options keep
      (fleet.sums options keep.nanos age now).2

/-- The view of a fleet asks about its sums. -/
theorem view_snd (fleet : Fleet) (age : Nat) (now : Instant) :
    (fleet.view age now).2 = fleet.asked age now := by
  cases fleet <;> rfl

/-- The usage of a domain asks about the sums. -/
theorem usage?_snd (fleet : Fleet) (age : Nat) (now : Instant) (domain : String) :
    (fleet.usage? age now domain).2 = fleet.asked age now := by
  cases fleet <;> rfl

/-- The numbers of a fleet ask about its sums. -/
theorem stats_snd (fleet : Fleet) (age : Nat) (now : Instant) :
    (fleet.stats age now).2 = fleet.asked age now := by
  cases fleet <;> rfl

/-- A report is an operation. -/
theorem report_snd (fleet : Fleet) (report : Report) (now : Instant) :
    (fleet.report report now).2 = (fleet.apply (.report report now)).2 := by
  cases fleet <;> rfl

/-- A heartbeat is an operation. -/
theorem introduce_snd (fleet : Fleet) (heartbeat : Heartbeat) (now : Instant) :
    (fleet.introduce heartbeat now).2 = (fleet.apply (.heartbeat heartbeat now)).2 := by
  cases fleet <;> rfl

/-- Whether the agent of a heartbeat is known is a matter of the roster. -/
theorem introduce_fst (fleet : Fleet) (heartbeat : Heartbeat) (now : Instant) :
    (fleet.introduce heartbeat now).1 = (fleet.roster.introduce heartbeat now).1 := by
  cases fleet <;> rfl

/-- The verdict on a report is that of the roster. -/
theorem report_fst (fleet : Fleet) (report : Report) (now : Instant) :
    (fleet.report report now).1 = fleet.roster.detect fleet.options report := by
  cases fleet <;> rfl

/-- Two fleets that differ at most in the sums that they keep, and keep none that are out of date. -/
inductive Alike : Fleet → Fleet → Prop
  | incremental (options : FleetOptions) (fleet : IncrementalFleet) :
    Alike (.incremental options fleet) (.incremental options fleet)
  | recomputing (options : FleetOptions) (keep : Duration) {first second : RecomputingFleet}
    (same : first.roster = second.roster) (fresh : first.Fresh) (fresh' : second.Fresh) :
    Alike (.recomputing options keep first) (.recomputing options keep second)

variable {first second : Fleet}

/-- To be alike is mutual. -/
theorem Alike.symm (alike : Alike first second) : Alike second first := by
  cases alike with
  | incremental options fleet => exact .incremental options fleet
  | recomputing options keep same fresh fresh' =>
    exact .recomputing options keep same.symm fresh' fresh

/-- A fleet that is like another one is like itself. -/
theorem Alike.left (alike : Alike first second) : Alike first first := by
  cases alike with
  | incremental options fleet => exact .incremental options fleet
  | recomputing options keep same fresh fresh' => exact .recomputing options keep rfl fresh fresh

/-- An empty fleet is like itself: it keeps nothing. -/
theorem alike_ofSettings (settings : AggregationSettings) :
    Alike (ofSettings settings) (ofSettings settings) := by
  have fresh : RecomputingFleet.Fresh {} := RecomputingFleet.fresh_of_dropped rfl
  rw [ofSettings]
  cases settings.strategy with
  | incremental => exact .incremental _ _
  | recompute => exact .recomputing _ _ rfl fresh fresh

/-- Fleets that are alike know the same of their agents. -/
theorem Alike.roster_eq (alike : Alike first second) : first.roster = second.roster := by
  cases alike with
  | incremental options fleet => rfl
  | recomputing options keep same fresh fresh' => exact same

/-- Fleets that are alike treat their agents alike. -/
theorem Alike.options_eq (alike : Alike first second) : first.options = second.options := by
  cases alike <;> rfl

/-- What is like an incremental fleet is the same fleet. -/
theorem Alike.eq_of_incremental {options : FleetOptions} {fleet : IncrementalFleet}
    (alike : Alike first (.incremental options fleet)) : first = .incremental options fleet := by
  cases alike
  rfl

/-- Operations take an incremental fleet to an incremental one. -/
theorem foldl_apply_incremental (options : FleetOptions) (operations : List FleetOperation)
    (fleet : IncrementalFleet) :
    operations.foldl (fun fleet operation => (fleet.apply operation).2) (incremental options fleet) =
      .incremental options
        (operations.foldl (fun fleet operation => (fleet.apply options operation).2) fleet) := by
  induction operations generalizing fleet with
  | nil => rfl
  | cons operation rest induction => exact induction (fleet.apply options operation).2

/-- A question leaves a fleet like the other one. -/
theorem Alike.asked (alike : Alike first second) (age : Nat) (now : Instant) :
    Alike (first.asked age now) second := by
  cases alike with
  | incremental options fleet => exact .incremental options fleet
  | recomputing options keep same fresh fresh' =>
    refine .recomputing options keep ?_ (RecomputingFleet.fresh_sums fresh _ _ _ _) fresh'
    rw [RecomputingFleet.roster_sums, same]

/-- Fleets that are alike find the same sums, whatever the ages of what they keep. -/
theorem Alike.questions (alike : Alike first second) (age age' : Nat) (now : Instant) :
    (first.view age now).1 = (second.view age' now).1 ∧
      (∀ domain, (first.usage? age now domain).1 = (second.usage? age' now domain).1) ∧
      (first.stats age now).1 = (second.stats age' now).1 := by
  cases alike with
  | incremental options fleet => exact ⟨rfl, fun _ => rfl, rfl⟩
  | recomputing options keep same fresh fresh' =>
    refine ⟨?_, fun domain => ?_, ?_⟩
    · simp only [view, RecomputingFleet.view, RecomputingFleet.sums_of_fresh fresh,
        RecomputingFleet.sums_of_fresh fresh', same]
    · simp only [usage?, RecomputingFleet.usage?, RecomputingFleet.sums_of_fresh fresh,
        RecomputingFleet.sums_of_fresh fresh', same]
    · simp only [stats, RecomputingFleet.stats, RecomputingFleet.sums_of_fresh fresh,
        RecomputingFleet.sums_of_fresh fresh', same]

/-- Fleets that are alike answer an operation in the same way, and are alike after it. -/
theorem Alike.apply (alike : Alike first second) (operation : FleetOperation) :
    (first.apply operation).1 = (second.apply operation).1 ∧
      Alike (first.apply operation).2 (second.apply operation).2 := by
  cases alike with
  | incremental options fleet => exact ⟨rfl, .incremental options _⟩
  | @recomputing options keep left right same fresh fresh' =>
    have here := left.apply_roster options operation
    have there := right.apply_roster options operation
    rw [same] at here
    have both := here.trans there.symm
    obtain ⟨answers, rosters⟩ := Prod.mk.inj both
    exact ⟨answers, .recomputing options keep rosters
      (RecomputingFleet.fresh_apply fresh options operation)
      (RecomputingFleet.fresh_apply fresh' options operation)⟩

end Fleet

end FleetTraffic
