import CliMetadata.Pattern
import CliMetadata.Pattern.CharClass
import CliMetadata.Text.Blank

namespace CliMetadata.PatternText

structure Modes where
  ignoreCase : Bool := true
  multiLine : Bool := false
  dotAll : Bool := false
  /-- Which rounds a repetition prefers; without effect on whether there is a match. -/
  swapGreed : Bool := false
  unicode : Bool := true
  crlf : Bool := false
  /-- White space and comments do not count. -/
  spaced : Bool := false
  deriving DecidableEq

/-- Drops white space, and comments from a number sign to the end of the line. -/
def withoutComments (inComment : Bool) : List Char → List Char
  | [] => []
  | c :: cs =>
    if inComment then withoutComments (c != '\n') cs
    else if isBlank c then withoutComments false cs
    else if c = '#' then withoutComments true cs
    else c :: cs

namespace Modes

variable (m : Modes)

def skip (cs : List Char) : List Char := if m.spaced then withoutComments false cs else cs

/-- The characters that count up to the first one that fails a test, and the text from that on. -/
def spanWithin (test : Char → Bool) (inComment : Bool) : List Char → List Char × List Char
  | [] => ([], [])
  | c :: cs =>
    if inComment then spanWithin test (c != '\n') cs
    else if m.spaced && isBlank c then spanWithin test false cs
    else if m.spaced && c == '#' then spanWithin test true cs
    else if test c then
      let (front, rest) := spanWithin test false cs
      (c :: front, rest)
    else ([], c :: cs)

def span (test : Char → Bool) (cs : List Char) : List Char × List Char :=
  m.spanWithin test false cs

/-- What counts up to a closing brace, and the text behind the brace. -/
def braced? (cs : List Char) : Option (List Char × List Char) :=
  match m.span (· != '\x7d') cs with
  | (content, _ :: rest) => some (content, rest)
  | (_, []) => none

/-- The set with all forms of its letters, where case does not count. -/
def closed (s : CharSet) : CharSet :=
  if !m.ignoreCase then s else if m.unicode then s.foldClosure else s.asciiClosure

/-- Sets of bytes have to stay among the ASCII characters. -/
def checked (s : CharSet) : Option CharSet := if m.unicode || s.isAscii then some s else none

def negated? (s : CharSet) : Option CharSet :=
  m.checked (s.complementTo (if m.unicode then CharSet.lastPoint else 0xFF))

def finished (negated : Bool) (s : CharSet) : Option CharSet :=
  if negated then m.negated? (m.closed s) else m.checked (m.closed s)

def words : CharSet := if m.unicode then CharClass.word else CharClass.asciiWord

def digits : CharSet := if m.unicode then CharClass.digit else CharClass.asciiDigit

def spaces : CharSet := if m.unicode then CharClass.space else CharClass.asciiSpace

/-- The class that a letter stands for; capital letters stand for all other characters. -/
def letterClass? (c : Char) : Option CharSet :=
  match c with
  | 'd' => some m.digits
  | 's' => some m.spaces
  | 'w' => some m.words
  | 'D' => m.negated? m.digits
  | 'S' => m.negated? m.spaces
  | 'W' => m.negated? m.words
  | _ => none

def dot? : Option CharSet :=
  let excluded : List (Nat × Nat) :=
    if m.dotAll then [] else if m.crlf then [(10, 10), (13, 13)] else [(10, 10)]
  if m.unicode then some (CharSet.mk excluded).complement else none

def lineStart : Look :=
  if !m.multiLine then .textStart else if m.crlf then .crlfStart else .lineStart

def lineEnd : Look := if !m.multiLine then .textEnd else if m.crlf then .crlfEnd else .lineEnd

end Modes

end CliMetadata.PatternText
