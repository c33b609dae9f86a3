/-!
# Spacing of checks

Checks that the updater makes by itself keep a distance in time. Times are in milliseconds and have
64 bits with a sign.
-/

namespace SelfUpdate.Throttle

/-- The least distance between two checks, which is a day. -/
def interval : Int64 := 24 * 60 * 60 * 1000

/-- The time from `last` to `now`, or the nearest number of 64 bits. -/
def elapsed (last now : Int64) : Int64 := Int64.ofIntClamp (now.toInt - last.toInt)

/-- Whether the next check is due, the last one having been attempted at `last`. -/
def isDue (last now : Int64) : Bool := interval ≤ elapsed last now

end SelfUpdate.Throttle
