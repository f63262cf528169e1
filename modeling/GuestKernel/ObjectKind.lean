/-!
# Kinds of kernel objects

Every kernel object carries a kind that can be asked for while the program runs. Three of the
kinds own a range of guest memory.
-/

set_option autoImplicit false

namespace GuestKernel

inductive ObjectKind where
  | thread
  | process
  | sharedMemory
  | transferMemory
  | privateMemory
  | session
  | event
  deriving DecidableEq

namespace ObjectKind

/-- The name that messages and log records use. -/
def name : ObjectKind → String
  | thread => "KThread"
  | process => "KProcess"
  | sharedMemory => "KSharedMemory"
  | transferMemory => "KTransferMemory"
  | privateMemory => "KPrivateMemory"
  | session => "KSession"
  | event => "KEvent"

/-- Whether objects of this kind own a range of guest memory. -/
def isMemory : ObjectKind → Bool
  | sharedMemory | transferMemory | privateMemory => true
  | _ => false

end ObjectKind

end GuestKernel
