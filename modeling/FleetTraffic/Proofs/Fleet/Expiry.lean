import FleetTraffic.Proofs.Fleet.History
import FleetTraffic.Proofs.Ledger.Deficit

/-!
# The sums after an expiry

Forgetting an expired agent takes its contribution out of the sums. If a sum had stopped at the
greatest counter while the agent was there, too much is taken away, and what the other agents
contribute is lost with it. The sums then stay too small until one of the agents reports at a time
when no other agent holds any of the quantity.
-/

namespace FleetTraffic.IncrementalFleet

/-- After an expiry that leaves totals that fit, the kept sums show the same traffic as the sums from
scratch exactly when the changes up to then have recovered in every quantity: each time a total passed
the greatest counter, some later change was made for an agent beside whom nobody held any of it. -/
theorem expire_agrees_iff_recovered (options : FleetOptions) (operations : List FleetOperation)
    (maxAge : Duration) (now : Instant)
    (fits : ((run options operations).expire maxAge now).2.ledger.Fits) :
    ((run options operations).expire maxAge now).2.ledger.sums.SameTraffic
        ((run options operations).expire maxAge now).2.ledger.resum ↔
      ∀ domain quantity,
        Ledger.Recovered (ledgerHistory options (operations ++ [.expire maxAge now])) domain quantity := by
  have asRun : ((run options operations).expire maxAge now).2.ledger =
      Ledger.run (ledgerHistory options (operations ++ [.expire maxAge now])) := by
    rw [← ledger_run, run_concat]
    rfl
  rw [asRun] at fits ⊢
  exact Ledger.agree_iff_recovered _ fits

/-- One agent fills a domain to the greatest counter, and another one adds to it half a minute later. -/
def overfull : List FleetOperation :=
  [.report (.single "a" .epoch "x.org" 18446744073709551615) (.early 0),
    .report (.single "b" .epoch "x.org" 5) (.early 30)]

/-- After the overfull domain lost its first agent, the second one reports anew, alone by now. -/
def overfullThenAlone : List FleetOperation :=
  overfull ++ [.expire (.ofSeconds 40) (.early 50), .report (.single "b" .epoch "x.org" 7) (.early 55)]

/-- The overfull domain has recovered when its only agent has reported again. -/
theorem overfullThenAlone_recovered :
    ((run usualOptions overfullThenAlone).expire (.ofSeconds 40) (.early 58)).2.ledger.Fits ∧
      ∀ domain quantity,
        Ledger.Recovered
          (ledgerHistory usualOptions (overfullThenAlone ++ [.expire (.ofSeconds 40) (.early 58)]))
          domain quantity := by
  have fits : ((run usualOptions overfullThenAlone).expire (.ofSeconds 40) (.early 58)).2.ledger.Fits :=
    Ledger.fits_of_size_le_one (by decide +kernel)
  have same : ((run usualOptions overfullThenAlone).expire (.ofSeconds 40) (.early 58)).2.ledger.sums =
      ((run usualOptions overfullThenAlone).expire (.ofSeconds 40) (.early 58)).2.ledger.resum := by
    decide +kernel
  refine ⟨fits, (expire_agrees_iff_recovered _ _ _ _ fits).mp ?_⟩
  intro domain
  rw [same]

/-- The expiry of the agent that filled the domain takes the whole domain out of the sums, although the
other agent still contributes to it. -/
theorem overfull_loses_live_traffic :
    ((run usualOptions overfull).expire (.ofSeconds 40) (.early 50)).2.ledger.Fits ∧
      ((run usualOptions overfull).expire (.ofSeconds 40) (.early 50)).1 = ["a"] ∧
      ((run usualOptions overfull).expire (.ofSeconds 40) (.early 50)).2.ledger.sums.contains "x.org" = false ∧
      ((run usualOptions overfull).expire (.ofSeconds 40) (.early 50)).2.ledger.resum.amount "x.org" .accesses = 5 ∧
      ¬((run usualOptions overfull).expire (.ofSeconds 40) (.early 50)).2.ledger.sums.SameTraffic
        ((run usualOptions overfull).expire (.ofSeconds 40) (.early 50)).2.ledger.resum := by
  refine ⟨Ledger.fits_of_size_le_one (by decide +kernel), by decide +kernel, by decide +kernel,
    by decide +kernel, ?_⟩
  intro same
  have here := congrArg Option.isSome (same "x.org")
  revert here
  decide +kernel

end FleetTraffic.IncrementalFleet
