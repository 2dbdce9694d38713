import ArithScan.Scan

set_option autoImplicit false

namespace ArithScan

-- Scanning by hand: only a step that takes a lexeme, a push and a finish change a session.
inductive Request where
  | charAt (position : Nat)
  | textFrom (position : Nat)
  | atEnd (position : Nat)
  | step (position : Nat) (current : Char) (keep : Bool)
  | next (keep : Bool)
  | push (token : Token)
  | finish
deriving DecidableEq

inductive Reply where
  | character (found? : Option Char)
  | text (rest : Text)
  | truth (holds : Bool)
  | stepped (token? : Option Token) (stop : Nat)
  | refused (error : LexError)
  | nothingLeft
  | pushed
  | finished (tokens : List Token)
deriving DecidableEq

structure Session where
  source : Text
  cursor : Nat
  pushed : List Token
deriving DecidableEq

namespace Session

def begin (source : Text) : Session := ⟨source, 0, []⟩

def pass (session : Session) (lexeme : Lexeme) (keep : Bool) : Session :=
  ⟨session.source, lexeme.stop, session.pushed ++ if keep then lexeme.token?.toList else []⟩

def step (session : Session) (position : Nat) (current : Char) (keep : Bool) : Reply × Session :=
  match Lexeme.scanAt Rule.table session.source position current with
  | .error error => (.refused error, session)
  | .ok lexeme => (.stepped lexeme.token? lexeme.stop, session.pass lexeme keep)

def answer (session : Session) : Request → Reply × Session
  | .charAt position => (.character (session.source.charAt? position), session)
  | .textFrom position => (.text (session.source.dropBytes position), session)
  | .atEnd position => (.truth (session.source.byteLength ≤ position), session)
  | .step position current keep => session.step position current keep
  | .next keep =>
      match session.source.charAt? session.cursor with
      | none => (.nothingLeft, session)
      | some current => session.step session.cursor current keep
  | .push token => (.pushed, { session with pushed := session.pushed ++ [token] })
  | .finish =>
      (.finished (session.pushed ++ [.endOfInput session.source.byteLength]), begin session.source)

def run (session : Session) : List Request → List Reply × Session
  | [] => ([], session)
  | request :: later =>
      let first := session.answer request
      let rest := first.2.run later
      (first.1 :: rest.1, rest.2)

end Session

end ArithScan
