import ArithScan.Report
import ArithScan.Text.Utf8

set_option autoImplicit false

namespace ArithScan

abbrev Bytes := List UInt8

-- How a run of the command line ends. A complaint is all that it writes to the standard
-- error: the variable that asks for a log is taken as unset, so no event goes there. Of
-- an aborted run nothing is promised there.
inductive Ending where
  | done
  | failed (complaint : Text)
  | aborted
deriving DecidableEq

namespace Ending

def exitCode : Ending → Nat
  | .done => 0
  | .failed _ => 1
  | .aborted => 101

def complaint? : Ending → Option Text
  | .done => some []
  | .failed complaint => some complaint
  | .aborted => none

end Ending

structure Outcome where
  output : Text
  ending : Ending
deriving DecidableEq

namespace Command

def prompt : Text := "Enter the expression to tokenize: ".toList

def evaluate (origin expression : Text) : Outcome :=
  match report expression origin with
  | .ok (.tokens lines) => ⟨Text.unlines lines, .done⟩
  | .ok (.diagnostic rendered) => ⟨[], .failed rendered⟩
  | .error _ => ⟨[], .aborted⟩

def onArguments (arguments : List Bytes) : Outcome :=
  match arguments.mapM Text.ofBytes? with
  | some texts => evaluate "args".toList ([' '].intercalate texts)
  | none => ⟨[], .aborted⟩

def firstLine (input : Bytes) : Bytes :=
  input.takeWhile fun byte => byte != 10

def onInput (input : Bytes) : Outcome :=
  match Text.ofBytes? (firstLine input) with
  | some line => evaluate "stdin".toList line.trimLineEnd
  | none => ⟨[], .failed "Failed to read expression: stream did not contain valid UTF-8\n".toList⟩

def run (arguments : List Bytes) (input : Bytes) : Outcome :=
  if arguments.isEmpty then
    let outcome := onInput input
    { outcome with output := prompt ++ outcome.output }
  else onArguments arguments

end Command

end ArithScan
