/-!
# Hexadecimal numerals

Messages and log records write handles, addresses and many sizes in base sixteen, with upper-case
digits, without leading zeros, after the mark `0x`.
-/

set_option autoImplicit false

namespace GuestKernel

/-- The numeral of `n` in base sixteen with its mark. -/
def hex (n : Nat) : String :=
  "0x" ++ String.ofList ((Nat.toDigits 16 n).map Char.toUpper)

end GuestKernel
