import GuestKernel.Action
import GuestKernel.Tls.Page

/-!
# The pages of thread-local storage of a process

The pages lie one after the other, as far as whoever maps them follows the addresses that they are
asked for. `TlsPageList.grow` maps one more page and `TlsPageList.getSlot` takes a slot of the first
page that has one, growing the list if none has. The first slot of the first page is kept for the
guest's handling of exceptions and is never given out.

The mapping itself is a parameter: an action on a state of its own, from the address that is asked
for to the address that is given.
-/

set_option autoImplicit false

namespace GuestKernel

/-- Pages in the order in which they were mapped. -/
structure TlsPageList where
  /-- Where the first page is asked for. -/
  base : VirtAddr
  pages : List TlsPage
  deriving DecidableEq

namespace TlsPageList

def new (base : VirtAddr) : TlsPageList := ⟨base, []⟩

/-- Where the next page is asked for: directly behind the last one. -/
def nextPageAddress (list : TlsPageList) : Except Fault VirtAddr :=
  match list.pages.getLast? with
  | none => .ok list.base
  | some page => VirtAddr.plus page.address pageSize

def append (list : TlsPageList) (page : TlsPage) : TlsPageList :=
  { list with pages := list.pages ++ [page] }

/-- A page as it joins the list: the first one has its first slot taken. -/
def prepare (list : TlsPageList) (address : VirtAddr) : Except Fault TlsPage :=
  if list.pages.isEmpty then (TlsPage.new address).reserveSlot.map Prod.snd
  else .ok (.new address)

/-- Takes a slot of the first page that is not full: where it lies, and the pages afterwards.
Without such a page there is nothing to take. -/
def reserveFirstFree : List TlsPage → Option (Except Fault (VirtAddr × List TlsPage))
  | [] => none
  | page :: rest =>
    if page.isFull then
      (reserveFirstFree rest).map fun outcome => outcome.map fun (address, pages) =>
        (address, page :: pages)
    else some (page.reserveSlot.map fun (address, page) => (address, page :: rest))

variable {τ : Type}

/-- What mapping a page reports when it is refused: the cause, unless that is one of its own. -/
def mappingRefusal (requested : VirtAddr) : KernelError → KernelError
  | cause@(.unresolvedTlsAllocation ..) => cause
  | cause => .unresolvedTls requested cause

/-- Maps one more page. -/
def grow (mapPage : VirtAddr → Action τ VirtAddr) : Action (TlsPageList × τ) TlsPage := do
  let list ← .onFirst .current
  let requested ← .done list.nextPageAddress
  let address ← .onSecond ((mapPage requested).mapRefusal (mappingRefusal requested))
  let page ← .done (list.prepare address)
  .note (.tlsPageMapped list.pages.length address)
  .onFirst (.update fun list => list.append page)
  return page

/-- Takes a slot of the first page that is not full, if there is such a page. -/
def reserveMapped : Action TlsPageList (Option VirtAddr) := do
  let list ← .current
  match reserveFirstFree list.pages with
  | none => return none
  | some outcome =>
    let (address, pages) ← .done outcome
    .update fun list => { list with pages := pages }
    return some address

def replaceLast (list : TlsPageList) (page : TlsPage) : TlsPageList :=
  { list with pages := list.pages.dropLast ++ [page] }

/-- Takes a slot, mapping a page when all are full. -/
def getSlot (mapPage : VirtAddr → Action τ VirtAddr) : Action (TlsPageList × τ) VirtAddr := do
  match ← .onFirst reserveMapped with
  | some address => return address
  | none =>
    let page ← grow mapPage
    let (address, page) ← .done page.reserveSlot
    .onFirst (.update fun list => list.replaceLast page)
    return address

end TlsPageList

end GuestKernel
