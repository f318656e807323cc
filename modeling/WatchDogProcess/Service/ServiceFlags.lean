/-! # What a service can do

The flags of `QtServiceBase` and the calls that both command servers make on the service
object: the one for Unix (`qtservice_unix.cpp`) and the control handler for Windows
(`qtservice_win.cpp`).
-/

namespace WatchDog

/-- `QtServiceBase::ServiceFlags`; with none set it is `Default`. -/
structure ServiceFlags where
  canBeSuspended : Bool
  cannotBeStopped : Bool
  needsStopOnShutdown : Bool
  deriving DecidableEq, Repr

/-- The calls of the virtual functions of `QtServiceBase`. -/
inductive ServiceCall where
  | start
  | stop
  | pause
  | resume
  | processCommand (code : Int)
  deriving DecidableEq, Repr

end WatchDog
