import GuestKernel.GuestProcess.Condition
import GuestKernel.GuestProcess.Mutex
import GuestKernel.GuestProcess.Threads
import GuestKernel.Memory.FileChannel
import GuestKernel.Memory.FileImage
import GuestKernel.Memory.LittleEndian.Lemmas
import GuestKernel.Memory.Window
import GuestKernel.Scripted.Allocator
import GuestKernel.Scripted.Factory
import GuestKernel.Scripted.Host
import GuestKernel.Proofs.Wait.Selection
import GuestKernel.Proofs.Wait.ServiceOrder
import GuestKernel.Proofs.Memory.Word
import GuestKernel.Proofs.Mutex.Calls
import GuestKernel.Proofs.Mutex.Tag
import GuestKernel.Proofs.Wait.Ledger
import GuestKernel.Proofs.Condition.Calls
import GuestKernel.Proofs.Wait.Accounted
import GuestKernel.Proofs.Wait.Conservation
import GuestKernel.Proofs.Mutex.Handover
import GuestKernel.Proofs.Mutex.Parties
import GuestKernel.Proofs.Mutex.Ownership
import GuestKernel.Proofs.HandleTable.Task
import GuestKernel.Proofs.HandleTable.Pool
import GuestKernel.Proofs.HandleTable.WriteOnce
import GuestKernel.Proofs.Tls.Filling
import GuestKernel.Proofs.Tls.Calls
import GuestKernel.Proofs.Tls.Order
import GuestKernel.Proofs.Process.Frame
import GuestKernel.Proofs.Process.Run
import GuestKernel.Proofs.Tls.Mapping
import GuestKernel.Proofs.Tls.Placement
import GuestKernel.Proofs.Process.Overflow
import GuestKernel.Proofs.Tls.Capacity
import GuestKernel.Proofs.Tls.Containment
import GuestKernel.Proofs.Process.Core
import GuestKernel.Proofs.Process.Counter
import GuestKernel.Proofs.Mutex.OwnerField
import GuestKernel.Proofs.Wait.Erasure
import GuestKernel.Proofs.Condition.Moves
import GuestKernel.Proofs.Condition.Transparency
import GuestKernel.Proofs.Process.Stable
import GuestKernel.Proofs.HandleTable.Owners
import GuestKernel.Proofs.Process.Heap
import GuestKernel.Proofs.Process.ThreadIndex
import GuestKernel.Proofs.Wait.Occurrences
import GuestKernel.Proofs.Wait.Overtaking
import GuestKernel.Proofs.Process.Initialization
import GuestKernel.Proofs.Memory.History
import GuestKernel.Proofs.Memory.Steady
import GuestKernel.Proofs.Wait.Turn
import GuestKernel.Proofs.Wait.Independence
import GuestKernel.Proofs.Mutex.TagUpdate
import GuestKernel.Proofs.Mutex.Ownerless
import GuestKernel.Proofs.Mutex.Failure
import GuestKernel.Proofs.Mutex.WaitersBit
import GuestKernel.Proofs.Wait.Pruned
import GuestKernel.Proofs.Condition.Signals
import GuestKernel.Proofs.HandleTable.Exhaustion
import GuestKernel.Proofs.HandleTable.Ownership
import GuestKernel.Proofs.Tls.Refusal
import GuestKernel.Proofs.HandleTable.Evolution
import GuestKernel.Proofs.Process.Stages
import GuestKernel.Proofs.Process.ThreadCreation
import GuestKernel.Proofs.HandleTable.Duplicate
import GuestKernel.Proofs.Process.StatusRace
import GuestKernel.Proofs.Memory.TypedValue
import GuestKernel.Proofs.Tls.AddressSums
import GuestKernel.Proofs.Wait.CallHistory
import GuestKernel.Proofs.Wait.Agreement
import GuestKernel.Proofs.Wait.Balance
