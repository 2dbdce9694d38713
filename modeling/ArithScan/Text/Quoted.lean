import ArithScan.Text.HexEscaped
import ArithScan.Text.Numeral

set_option autoImplicit false

namespace ArithScan

def hexEscape (c : Char) : Text :=
  ['\\', 'u', '\x7b'] ++ Text.hexadecimal c.toNat ++ ['\x7d']

def escape? (c : Char) : Option Text :=
  if c = '\x00' then some ['\\', '0']
  else if c = '\t' then some ['\\', 't']
  else if c = '\r' then some ['\\', 'r']
  else if c = '\n' then some ['\\', 'n']
  else if c = '\'' then some ['\\', '\'']
  else if c = '\\' then some ['\\', '\\']
  else if isHexEscaped c then some (hexEscape c)
  else none

def quoted (c : Char) : Text :=
  ['\''] ++ (escape? c).getD [c] ++ ['\'']

end ArithScan
