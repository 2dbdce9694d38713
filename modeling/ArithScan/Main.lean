import ArithScan.Command

set_option autoImplicit false

namespace ArithScan

partial def readLine (stream : IO.FS.Stream) (line : ByteArray) : IO ByteArray := do
  let byte ← stream.read 1
  if byte.isEmpty || byte == "\n".toUTF8 then return line
  readLine stream (line ++ byte)

def deliver (outcome : Outcome) : IO UInt32 := do
  IO.print (String.ofList outcome.output)
  IO.eprint (String.ofList (outcome.ending.complaint?.getD []))
  return outcome.ending.exitCode.toUInt32

end ArithScan

open ArithScan

def main (arguments : List String) : IO UInt32 := do
  if arguments.isEmpty then
    IO.print (String.ofList Command.prompt)
    (← IO.getStdout).flush
    deliver (Command.onInput (← readLine (← IO.getStdin) ByteArray.empty).toList)
  else
    deliver (Command.onArguments (arguments.map fun argument => argument.toUTF8.toList))
