import ArithScan.Text.Offset

set_option autoImplicit false

namespace ArithScan.Text

def decimal (n : Nat) : Text := Nat.toDigits 10 n

def hexadecimal (n : Nat) : Text := Nat.toDigits 16 n

theorem decimal_without (n : Nat) (c : Char) (other : c.isDigit = false) : c ∉ decimal n := by
  intro member
  rw [Nat.isDigit_of_mem_toDigits (by decide) (by decide) member] at other
  cases other

end ArithScan.Text
