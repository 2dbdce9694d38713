import ArithScan.Diagnostic
import ArithScan.Scan

set_option autoImplicit false

namespace ArithScan

inductive Treatment where
  | skipped
  | token (kind : TokenKind)
  | refused (tip : Bool) (escaped : Bool)
deriving DecidableEq

structure Profile where
  treatment : Treatment
  indents : Bool
deriving DecidableEq

def Treatment.ofChar (c : Char) : Treatment :=
  match tokenize [c] with
  | .error error => .refused error.tip?.isSome (escape? error.character).isSome
  | .ok (first :: _ :: _) => .token first.kind
  | .ok _ => .skipped

def Treatment.text : Treatment → Text
  | .skipped => "SKIP".toList
  | .token kind => kind.name
  | .refused tip escaped =>
      "ERROR ".toList ++ (if tip then "tip".toList else "no-tip".toList) ++
        if escaped then " escaped".toList else " raw".toList

namespace Profile

def ofChar (c : Char) : Profile :=
  ⟨.ofChar c, (Text.locationAt? [c, 'x'] c.utf8Size).any fun location => location.excerpt.before.isEmpty⟩

def text (profile : Profile) : Text :=
  profile.treatment.text ++ if profile.indents then " stripped".toList else []

end Profile

structure ProfileRun where
  first : Nat
  last : Nat
  profile : Profile
deriving DecidableEq

def ProfileRun.add (code : Nat) (later : List ProfileRun) : List ProfileRun :=
  let profile := Profile.ofChar (Char.ofNat code)
  match later with
  | run :: rest => if run.profile = profile then { run with first := code } :: rest else ⟨code, code, profile⟩ :: later
  | [] => [⟨code, code, profile⟩]

-- Neighbours of one profile are counted as one run. Surrogates are no characters,
-- so the two code points around them are neighbours.
def census (first last : Nat) : List ProfileRun :=
  ((List.range' first (last + 1 - first)).filter fun code => code.isValidChar).foldr ProfileRun.add []

end ArithScan
