import Resubmit.Flow

namespace Resubmit

/-!
# Flows for inspection

Instants have no written form, so of the next deadline only its presence is shown.
-/

/-- The form of a retry queue for inspection. -/
def RetryQueue.inspect (queue : RetryQueue α) : String :=
  Text.record "RetryQueue" [
    ("scheduled", toString queue.scheduled.length),
    ("ready", toString queue.ready.length),
    ("next_deadline", Text.optional (fun _ => "_") queue.nextDeadline?)
  ]

/-- The form of a flow for inspection. -/
def Flow.inspect (flow : Flow Req Ctx) : String :=
  Text.openRecord "RetryFlow" [
    ("policy", flow.settings.policy.inspect),
    ("parallelism", toString flow.settings.parallelism),
    ("retry_capacity", toString flow.settings.retryCapacity),
    ("in_flight", toString flow.inFlightCount),
    ("retries", flow.retries.inspect),
    ("upstream_done", Text.truth flow.feedEnded),
    ("terminated", Text.truth flow.terminated)
  ]

end Resubmit
