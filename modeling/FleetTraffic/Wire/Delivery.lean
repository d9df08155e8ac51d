import FleetTraffic.Delivery.Reporter

/-!
# The numbers of a reporter as JSON

What a reporter tells about its deliveries, with the length of its queue at the time of asking.
-/

namespace FleetTraffic

open JsonCodec

/-- The numbers of a reporter. -/
def Reporter.statsJson (reporter : Reporter) : Json :=
  let stats := reporter.stats
  Json.ofFields
    [ ("total_reports", .natural stats.total),
      ("success_reports", .natural stats.delivered),
      ("failed_reports", .natural stats.failed),
      ("retry_count", .natural stats.retries),
      ("dropped_reports", .natural stats.dropped),
      ("last_report_time", (optional instant).write stats.lastDelivery),
      ("last_error", (optional text).write stats.lastError),
      ("queue_size", .natural reporter.queue.length),
      ("batch_size", .natural stats.batchSize) ]

end FleetTraffic
