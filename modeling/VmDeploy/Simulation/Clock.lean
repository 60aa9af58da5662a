import VmDeploy.Time.Duration

/-!
# The simulated clock

Time passes in sleeps alone. A sleep lasts as long as it was asked to, but no
longer than `longestSleep`, and ends on a whole millisecond.
-/

set_option autoImplicit false

namespace VmDeploy.Simulation

/-- Nobody sleeps longer than thirty years of 365 days. -/
def longestSleep : Duration := .ofMillis (30 * 365 * 24 * 60 * 60 * 1000)

/-- The time at which one wakes who falls asleep at a time for a span. -/
def wakeTime (now span : Duration) : Duration :=
  let due := now + if longestSleep < span then longestSleep else span
  .ofMillis ((due.nanos + 999999) / 1000000)

end VmDeploy.Simulation
