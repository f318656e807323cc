import WatchDogProcess.Foundation.ReadersWriter

/-! # Modes of a locked file

The modes of `QtLockedFile` (`qtlockedfile.h`), and the access to the file that each
stands for.
-/

namespace WatchDog

/-- `QtLockedFile::LockMode`. -/
inductive LockMode where
  | noLock
  | readLock
  | writeLock
  deriving DecidableEq, Repr

open ReadersWriter in
/-- Readers share the file, a writer has it alone. -/
def LockMode.access : LockMode → Option Access
  | .noLock => none
  | .readLock => some .shared
  | .writeLock => some .exclusive

end WatchDog
