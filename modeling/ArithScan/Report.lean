import ArithScan.Diagnostic
import ArithScan.Scan

set_option autoImplicit false

namespace ArithScan

inductive Report where
  | tokens (lines : List Text)
  | diagnostic (rendered : Text)
deriving DecidableEq

def report (source origin : Text) : Except Fault Report :=
  match tokenize source with
  | .ok tokens => .ok (.tokens (tokens.map Token.display))
  | .error error => (error.render source origin).map .diagnostic

end ArithScan
