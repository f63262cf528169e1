import Mathlib
import GuestKernel.Tls.PageList

/-!
# Pages that are filled from the front

`fill count addresses` are pages at these addresses of which the first `count` slots are taken, one
page after the other. Taking the first free slot of such pages fills one slot more, wherever the
pages lie: `reserveFirstFree_fill` says which slot that is, and when there is none.
-/

set_option autoImplicit false

namespace GuestKernel

namespace TlsPage

/-- The page of which the first `count` slots are taken. -/
def filled (address : VirtAddr) (count : Nat) : TlsPage where
  address
  nextSlot := .ofNat count
  taken := .ofFn fun slot => decide (slot.val < count)

/-- How far a slot lies behind the start of its page. -/
def offset (slot : Nat) : Size := tlsSlotSize * (UInt8.ofNat slot).toUInt64

variable (address : VirtAddr) {count : Nat}

theorem new_eq_filled : new address = filled address 0 := by
  unfold new filled
  congr 1

theorem toNat_offset {slot : Nat} (h : slot < tlsSlots) : (offset slot).toNat = 512 * slot := by
  have all : ∀ slot < tlsSlots, (offset slot).toNat = 512 * slot := by decide
  exact all slot h

theorem toNat_nextSlot (h : count ≤ tlsSlots) : (filled address count).nextSlot.toNat = count := by
  apply UInt8.toNat_ofNat_of_lt'
  unfold tlsSlots at h
  simp only [UInt8.size]
  omega

theorem taken_set (count : Nat) :
    (filled address count).taken.setIfInBounds count true = (filled address (count + 1)).taken := by
  ext i hi
  simp only [filled, Vector.getElem_setIfInBounds, Vector.getElem_ofFn]
  split
  · simp_all
  · apply decide_eq_decide.mpr
    omega

/-- A page of which some slots are free gives the first of them. -/
theorem reserveSlot_filled (h : count < tlsSlots) :
    (filled address count).reserveSlot =
      (VirtAddr.plus address (offset count)).map fun slot => (slot, filled address (count + 1)) := by
  have next := toNat_nextSlot address (Nat.le_of_lt h)
  have room : ¬ tlsSlots ≤ (filled address count).nextSlot.toNat := by omega
  rw [reserveSlot, slotAddress, if_neg room]
  apply congrArg (fun f => Except.map f _)
  funext slot
  rw [next, taken_set]
  simp only [filled, UInt8.ofNat_add]
  rfl

theorem isFull_filled (h : count ≤ tlsSlots) :
    (filled address count).isFull = true ↔ count = tlsSlots := by
  unfold isFull
  rw [List.all_eq_true]
  constructor
  · intro all
    by_contra short
    have inside : count < tlsSlots := Nat.lt_of_le_of_ne h short
    have last : decide (count < count) ∈ (filled address count).taken.toList := by
      rw [Vector.mem_toList_iff, filled, Vector.mem_ofFn]
      exact ⟨⟨count, inside⟩, rfl⟩
    have marked := all _ last
    simp at marked
  · rintro rfl mark marked
    rw [Vector.mem_toList_iff, filled, Vector.mem_ofFn] at marked
    obtain ⟨slot, rfl⟩ := marked
    exact decide_eq_true slot.isLt

theorem isReserved_filled (h : count ≤ tlsSlots) (slot : UInt8) :
    (filled address count).isReserved slot = true ↔ slot.toNat < count := by
  unfold isReserved filled
  by_cases inside : slot.toNat < tlsSlots
  · simp [Vector.getElem?_eq_getElem inside]
  · simp only [Vector.getElem?_eq_none (Nat.not_lt.mp inside), Option.getD_none,
      Bool.false_eq_true, false_iff]
    omega

theorem count_taken (h : count ≤ tlsSlots) :
    (filled address count).taken.toList.count true = count := by
  have all : ∀ count ≤ tlsSlots,
      (Vector.ofFn fun slot : Fin tlsSlots => decide (slot.val < count)).toList.count true =
        count := by decide
  exact all count h

end TlsPage

namespace TlsPageList

/-- Pages at these addresses of which the first `count` slots are taken. -/
def fill : Nat → List VirtAddr → List TlsPage
  | _, [] => []
  | count, address :: rest =>
    .filled address (min count tlsSlots) :: fill (count - tlsSlots) rest

variable {count : Nat} {addresses : List VirtAddr}

@[simp] theorem length_fill (count : Nat) (addresses : List VirtAddr) :
    (fill count addresses).length = addresses.length := by
  induction addresses generalizing count with
  | nil => rfl
  | cons address rest ih => simp [fill, ih]

@[simp] theorem address_fill (count : Nat) (addresses : List VirtAddr) :
    (fill count addresses).map TlsPage.address = addresses := by
  induction addresses generalizing count with
  | nil => rfl
  | cons address rest ih => simp [fill, ih, TlsPage.filled]

theorem getElem_fill (count : Nat) {addresses : List VirtAddr} {i : Nat}
    (inside : i < addresses.length) (h : i < (fill count addresses).length) :
    (fill count addresses)[i] = .filled addresses[i] (min (count - tlsSlots * i) tlsSlots) := by
  induction addresses generalizing count i with
  | nil => exact absurd h (Nat.not_lt_zero i)
  | cons address rest ih =>
    cases i with
    | zero => rfl
    | succ i =>
      have shift : count - tlsSlots - tlsSlots * i = count - tlsSlots * (i + 1) := by
        rw [Nat.mul_add, Nat.mul_one]
        omega
      simp only [fill, List.getElem_cons_succ]
      rw [ih (count - tlsSlots) (Nat.lt_of_succ_lt_succ inside), shift]

/-- A page that joins pages which are filled no further than to their end. -/
theorem fill_append (h : count ≤ tlsSlots * addresses.length) (address : VirtAddr) :
    fill count (addresses ++ [address]) = fill count addresses ++ [.filled address 0] := by
  induction addresses generalizing count with
  | nil =>
    have none : count = 0 := Nat.le_zero.mp h
    subst none
    rfl
  | cons first rest ih =>
    rw [List.length_cons, Nat.mul_add, Nat.mul_one] at h
    simp only [List.cons_append, fill]
    rw [ih (by omega)]

/-- Of a page that joins full pages the first slot is taken next. -/
theorem fill_append_of_full (h : count = tlsSlots * addresses.length) (address : VirtAddr) {n : Nat}
    (short : n ≤ tlsSlots) :
    fill (count + n) (addresses ++ [address]) = fill count addresses ++ [.filled address n] := by
  induction addresses generalizing count with
  | nil =>
    have none : count = 0 := h
    subst none
    simp only [List.nil_append, fill, Nat.zero_add, Nat.min_eq_left short]
  | cons first rest ih =>
    rw [List.length_cons, Nat.mul_add, Nat.mul_one] at h
    have shift : count + n - tlsSlots = count - tlsSlots + n := by omega
    simp only [List.cons_append, fill, shift]
    rw [ih (by omega), Nat.min_eq_right (by omega), Nat.min_eq_right (by omega)]

theorem reserveFirstFree_fill_of_full (h : tlsSlots * addresses.length ≤ count) :
    reserveFirstFree (fill count addresses) = none := by
  induction addresses generalizing count with
  | nil => rfl
  | cons address rest ih =>
    rw [List.length_cons, Nat.mul_add, Nat.mul_one] at h
    have all : min count tlsSlots = tlsSlots := Nat.min_eq_right (by omega)
    have full := (TlsPage.isFull_filled address (Nat.min_le_right count tlsSlots)).mpr all
    simp only [fill, reserveFirstFree]
    rw [if_pos full, ih (by omega)]
    rfl

theorem reserveFirstFree_fill (h : count < tlsSlots * addresses.length)
    (inside : count / tlsSlots < addresses.length) :
    reserveFirstFree (fill count addresses) =
      some ((VirtAddr.plus addresses[count / tlsSlots] (TlsPage.offset (count % tlsSlots))).map
        fun slot => (slot, fill (count + 1) addresses)) := by
  induction addresses generalizing count with
  | nil => exact absurd h (Nat.not_lt_zero count)
  | cons address rest ih =>
    rw [List.length_cons, Nat.mul_add, Nat.mul_one] at h
    simp only [fill, reserveFirstFree]
    by_cases room : count < tlsSlots
    · have first : count / tlsSlots = 0 := Nat.div_eq_of_lt room
      have own : count % tlsSlots = count := Nat.mod_eq_of_lt room
      have some_free : ¬ (TlsPage.filled address (min count tlsSlots)).isFull = true := by
        rw [TlsPage.isFull_filled address (Nat.min_le_right count tlsSlots)]
        omega
      have rest_empty : count + 1 - tlsSlots = count - tlsSlots := by omega
      simp only [if_neg some_free, first, own, List.getElem_cons_zero, rest_empty]
      rw [Nat.min_eq_left (Nat.le_of_lt room), Nat.min_eq_left room,
        TlsPage.reserveSlot_filled address room]
      cases VirtAddr.plus address (TlsPage.offset count) <;> rfl
    · -- a full page is passed, and its slots count no more among the later ones
      have all : min count tlsSlots = tlsSlots := Nat.min_eq_right (by omega)
      have full := (TlsPage.isFull_filled address (Nat.min_le_right count tlsSlots)).mpr all
      have positive : 0 < tlsSlots := by decide
      have page : count / tlsSlots = (count - tlsSlots) / tlsSlots + 1 :=
        Nat.div_eq_sub_div positive (Nat.not_lt.mp room)
      have slot : count % tlsSlots = (count - tlsSlots) % tlsSlots :=
        Nat.mod_eq_sub_mod (Nat.not_lt.mp room)
      have later : (count - tlsSlots) / tlsSlots < rest.length := by
        rw [page, List.length_cons] at inside
        omega
      have next : count + 1 - tlsSlots = count - tlsSlots + 1 := by omega
      have still : min (count + 1) tlsSlots = min count tlsSlots := by omega
      rw [if_pos full, ih (by omega) later]
      simp only [page, slot, List.getElem_cons_succ, next, still]
      cases VirtAddr.plus rest[(count - tlsSlots) / tlsSlots]
        (TlsPage.offset ((count - tlsSlots) % tlsSlots)) <;> rfl

end TlsPageList

end GuestKernel
