import GuestKernel.GuestProcess.Collaborators

/-!
# A thread factory that follows a script

A `ScriptedFactory` writes down what it is asked for and does what its `FactoryScript` says: it may
bind an event in the process whose thread it makes, it may refuse, and it may give the thread
another number or another handle than the ones that are due.
-/

set_option autoImplicit false

namespace GuestKernel

structure FactoryScript where
  /-- The number of an event that it binds in the process first. -/
  event : Option Nat := none
  refusal : Option KernelError := none
  /-- The thread number that it uses instead of the next one. -/
  tid : Option Tid := none
  /-- The handle that the thread is told instead of its own. -/
  handle : Option Handle := none
  deriving DecidableEq

structure ScriptedFactory where
  script : FactoryScript
  nextTid : Tid
  created : List ThreadParams
  deriving DecidableEq

namespace ScriptedFactory

/-- A factory that makes every thread as described. -/
def new : ScriptedFactory := ⟨{}, 1000, []⟩

/-- An event without a view. -/
def eventObject (number : Nat) : KernelObject := ⟨.numbered number, .ordinary .event, none, none⟩

/-- Makes a thread as the script says, once the event is bound. -/
def finish (f : ScriptedFactory) (params : ThreadParams) :
    Except Fault ThreadObject × ScriptedFactory :=
  match f.script.refusal with
  | some cause => (.error (.error cause), f)
  | none =>
    let tid := f.script.tid.getD f.nextTid
    let handle := f.script.handle.getD params.handle
    let made : ThreadObject := ⟨.numbered tid.toNat, handle, params.priority, tid, params.tls⟩
    let nextTid := if f.script.tid.isSome then f.nextTid else f.nextTid + 1
    (.ok made, { f with nextTid })

/-- Binds the event that the script asks for, then makes the thread. -/
def create (f : ScriptedFactory) (params : ThreadParams) :
    TableProgram (Except Fault ThreadObject × ScriptedFactory) :=
  let f := { f with created := f.created ++ [params] }
  match f.script.event with
  | none => .done (f.finish params)
  | some number =>
    .call (.insertItem (eventObject number)) fun
      | .ok _ => .done (f.finish params)
      | .error fault => .done (.error fault, f)

instance : ThreadFactory ScriptedFactory := ⟨create⟩

end ScriptedFactory

end GuestKernel
