import ArithScan.Text.Offset

set_option autoImplicit false

namespace ArithScan

inductive Fault where
  | reversedSpan
  | fieldTooWide
deriving DecidableEq

def Fault.message : Fault → Text
  | .reversedSpan => "attempt to subtract with overflow".toList
  | .fieldTooWide => "Formatting argument out of range".toList

end ArithScan
