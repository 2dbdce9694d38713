import ArithScan.Text.Line

set_option autoImplicit false

namespace ArithScan

structure Location where
  number : Nat
  line : Text
  column : Nat
deriving DecidableEq

def locate? : Nat → List Text → Nat → Option Location
  | _, [], _ => none
  | number, line :: rest, offset =>
      if offset < line.byteLength then
        (line.charIndex? offset).map fun column => ⟨number, line, column⟩
      else locate? (number + 1) rest (offset - line.byteLength)

def Text.locationAt? (text : Text) (position : Nat) : Option Location :=
  locate? 1 text.lines position

end ArithScan
