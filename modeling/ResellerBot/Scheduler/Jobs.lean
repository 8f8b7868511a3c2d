import ResellerBot.Scheduler.Sync
import ResellerBot.Scheduler.Orders

/-!
# ResellerBot.Scheduler.Jobs — one run of the scheduler (`app/scheduler/jobs.py`)
-/

open Interact

namespace ResellerBot

/-- `LifecycleRunner.run` with a driver that keeps time zones or drops them. -/
def lifecycle (zoned : Bool) (cfg : Settings) (batchSize : ℕ) : Bot Unit :=
  inSession (locked "scheduler:global" 240 fun won => Act.when won do
    syncResellers cfg batchSize
    syncUsers cfg batchSize
    dueDeletions cfg batchSize zoned
    reconcileOrders cfg batchSize
    reconcilePlisio cfg batchSize
    commit)

/-- `LifecycleRunner.run`: SQLite drops them. -/
def run (cfg : Settings) (batchSize : ℕ) : Bot Unit := lifecycle false cfg batchSize

end ResellerBot
