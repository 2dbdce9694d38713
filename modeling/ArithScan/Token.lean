import ArithScan.Fault

set_option autoImplicit false

namespace ArithScan

inductive TokenKind where
  | number
  | identifier
  | operator
  | parenthesis
  | endOfInput
deriving DecidableEq

def TokenKind.name : TokenKind → Text
  | .number => "NUMBER".toList
  | .identifier => "IDENTIFIER".toList
  | .operator => "OPERATOR".toList
  | .parenthesis => "PARENTHESIS".toList
  | .endOfInput => "EOF".toList

structure Span where
  start : Nat
  stop : Nat
deriving DecidableEq

def Span.isEmpty (span : Span) : Bool := span.start == span.stop

def Span.length (span : Span) : Except Fault Nat :=
  if span.stop < span.start then .error .reversedSpan else .ok (span.stop - span.start)

-- A token may also be made by hand, so neither the order of the ends of its span
-- nor the length of its value is promised here. The tokens of a scan have both.
structure Token where
  kind : TokenKind
  value : Text
  span : Span
deriving DecidableEq

namespace Token

def endOfInput (position : Nat) : Token :=
  ⟨.endOfInput, [], ⟨position, position⟩⟩

def isEndOfInput (token : Token) : Bool := token.kind == .endOfInput

def display (token : Token) : Text :=
  "Token[type=".toList ++ token.kind.name ++ ", value='".toList ++ token.value ++ "']".toList

end Token

end ArithScan
