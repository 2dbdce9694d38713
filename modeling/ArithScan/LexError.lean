import ArithScan.Text.CharClass
import ArithScan.Text.Quoted

set_option autoImplicit false

namespace ArithScan

structure LexError where
  character : Char
  position : Nat
deriving DecidableEq

namespace LexError

def name : Text := "UnrecognisedCharacter".toList

def cause (error : LexError) : Text :=
  "lexical error: unrecognised character ".toList ++ quoted error.character

def message (error : LexError) : Text :=
  error.cause ++ " at offset ".toList ++ Text.decimal error.position

-- A tip shows the character as it is, so there is none for a control character.
def tip? (error : LexError) : Option Text :=
  if isControl error.character then none
  else
    some (['\x60', error.character, '\x60'] ++
      " is not a number, identifier, operator (+ - * /) or parenthesis".toList)

end LexError

end ArithScan
