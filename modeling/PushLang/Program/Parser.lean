import PushLang.Atom.Basic
import PushLang.Decimal.Reader
import PushLang.Text.Blank
import PushLang.Text.Letter

namespace PushLang

inductive ParseError where
  | unclosedProgram
  | invalidNumber (token : String)
  deriving DecidableEq

def ParseError.message : ParseError → String
  | .unclosedProgram => "no closing parenthesis found for program"
  | .invalidNumber token => "could not convert '" ++ token ++ "' to a number"

inductive Token where
  | opening
  | closing
  | word (text : List Char)
  deriving DecidableEq

namespace Token

/-- The word collected so far, last character first, as a token in front of the others. -/
def flush (collected : List Char) (tokens : List Token) : List Token :=
  if collected.isEmpty then tokens else .word collected.reverse :: tokens

/-- The tokens of a text, the first of which begins with the characters collected so far. -/
def scanFrom (collected : List Char) : List Char → List Token
  | [] => flush collected []
  | c :: rest =>
    if c = '(' then flush collected (.opening :: scanFrom [] rest)
    else if c = ')' then flush collected (.closing :: scanFrom [] rest)
    else if Text.isBlank c then flush collected (scanFrom [] rest)
    else scanFrom (c :: collected) rest

def scan (text : String) : List Token := scanFrom [] text.toList

end Token

/-- The atom a word stands for: a name if it begins with a letter, else a number, which is a double
if there is a point in it. -/
def Atom.ofWord (word : List Char) : Except ParseError Atom :=
  let text := String.ofList word
  if (word.head?.map Text.isLetter).getD false then .ok (.name text)
  else
    let number :=
      if word.contains '.' then (Decimal.readFloat? text).map Atom.float
      else (Decimal.readInteger? text).map Atom.integer
    match number with
    | some a => .ok a
    | none => .error (.invalidNumber text)

namespace Program

/-- Reads up to the parenthesis that closes the program. `current` holds the atoms of the innermost
open program and `outer` those of the programs around it, last atom first. -/
def build (current : List Atom) (outer : List (List Atom)) :
    List Token → Except ParseError Program
  | [] => .error .unclosedProgram
  | .opening :: rest => build [] (current :: outer) rest
  | .closing :: rest =>
    match outer with
    | [] => .ok current.reverse
    | parent :: others => build (.program current.reverse :: parent) others rest
  | .word w :: rest =>
    match Atom.ofWord w with
    | .ok a => build (a :: current) outer rest
    | .error e => .error e

def body : List Token → List Token
  | .opening :: rest => rest
  | tokens => tokens

def parse (text : String) : Except ParseError Program := build [] [] (body (Token.scan text))

end Program

end PushLang
