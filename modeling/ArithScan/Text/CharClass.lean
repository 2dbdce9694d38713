import ArithScan.Text.CodeRange

set_option autoImplicit false

namespace ArithScan

-- Two notions of space are in use, and neither contains the other. A blank
-- separates tokens: the separators of Unicode without the three no-break spaces,
-- and the spacing and separating controls of ASCII.
def blankRanges : CodeRanges :=
  [(0x9, 0xd), (0x1c, 0x20), (0x1680, 0x1680), (0x2000, 0x2006), (0x2008, 0x200a), (0x2028, 0x2029),
   (0x205f, 0x205f), (0x3000, 0x3000)]

-- The characters with the Unicode property White_Space.
def whiteSpaceRanges : CodeRanges :=
  [(0x9, 0xd), (0x20, 0x20), (0x85, 0x85), (0xa0, 0xa0), (0x1680, 0x1680), (0x2000, 0x200a),
   (0x2028, 0x2029), (0x202f, 0x202f), (0x205f, 0x205f), (0x3000, 0x3000)]

def controlRanges : CodeRanges := [(0x0, 0x1f), (0x7f, 0x9f)]

theorem blank_ranges_ascending : ascending 0 blankRanges = true := rfl

theorem white_space_ranges_ascending : ascending 0 whiteSpaceRanges = true := rfl

theorem control_ranges_ascending : ascending 0 controlRanges = true := rfl

def isBlank (c : Char) : Bool := inRanges blankRanges c.toNat

def isWhiteSpace (c : Char) : Bool := inRanges whiteSpaceRanges c.toNat

def isControl (c : Char) : Bool := inRanges controlRanges c.toNat

def startsIdentifier (c : Char) : Bool := c.isAlpha || c == '_'

def continuesIdentifier (c : Char) : Bool := c.isAlphanum || c == '_'

def isOperator (c : Char) : Bool := c == '+' || c == '-' || c == '*' || c == '/'

def isParenthesis (c : Char) : Bool := c == '(' || c == ')'

end ArithScan
