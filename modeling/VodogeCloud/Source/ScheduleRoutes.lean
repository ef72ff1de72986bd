import VodogeCloud.Source.ScheduleMemory
import VodogeCloud.Source.ScheduledTasks

/-!
# The anchor a request sets, and what is due next

`createSchedule` (apps/gateway/cmd/gateway/schedule_routes.go:125-194) takes the anchor in
milliseconds and checks nothing about it; `Task.NextDueAt`
(apps/gateway/internal/schedule/schedule.go:156-166) is shown with every task.
-/

set_option autoImplicit false

namespace VodogeCloud.Source.ScheduleRoutes

open VodogeCloud.Source.Schedule VodogeCloud.Source.ScheduleMemory

/-- `time.UnixMilli`. -/
def unixMilli (milliseconds : Int) : GoTime := milliseconds * 1000000

/-- `task.AnchorAt` from `anchor_at_ms`. A zero time is no anchor, and the store takes its own. -/
def requestedAnchor (anchorAtMs : Option Int) : Option GoTime :=
  (anchorAtMs.map unixMilli).filter (fun anchor => anchor ≠ zeroTime)

/-- `Task.NextDueAt`. Each product of durations wraps. -/
def nextDueAt (anchorAt : GoTime) (intervalSeconds lastOccurrence : Int) : GoTime :=
  if intervalSeconds ≤ 0 then zeroTime
  else anchorAt + wrap (wrap (intervalSeconds * second) * wrap (lastOccurrence + 1))

end VodogeCloud.Source.ScheduleRoutes
