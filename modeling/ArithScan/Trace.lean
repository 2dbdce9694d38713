import ArithScan.Scan

set_option autoImplicit false

namespace ArithScan

inductive Event where
  | opened (length : Nat)
  | scanned (token : Token)
  | unrecognised (error : LexError)
deriving DecidableEq

namespace Event

def level : Event → Text
  | .opened _ => "DEBUG".toList
  | .scanned _ => "TRACE".toList
  | .unrecognised _ => "DEBUG".toList

def spanName : Text := "tokenize".toList

-- A span that opens is listed as one, with its own name behind the word.
def name : Event → Text
  | .opened _ => "span ".toList ++ spanName
  | .scanned _ => "token".toList
  | .unrecognised _ => "unrecognised character".toList

def fields : Event → List (Text × Text)
  | .opened length => [("len".toList, Text.decimal length)]
  | .scanned token =>
      [("kind".toList, token.kind.name), ("value".toList, token.value),
        ("start".toList, Text.decimal token.span.start)]
  | .unrecognised error =>
      [("character".toList, quoted error.character), ("offset".toList, Text.decimal error.position)]

end Event

namespace Scan

def lastEvent (scan : Scan) (length : Nat) : Event :=
  match scan.error? with
  | some error => .unrecognised error
  | none => .scanned (.endOfInput length)

end Scan

def trace (source : Text) : List Event :=
  let scan := Scan.ofSource Rule.table source
  .opened source.byteLength :: scan.tokens.map .scanned ++ [scan.lastEvent source.byteLength]

end ArithScan
