import LateBinding.Text.Alphanumeric

/-!
# Tokens of regular expressions

* `Atom`, `Member`, `Token` — what a regular expression is written with: what matches by itself,
  what a set of characters is made of, and these with groups, sets and operators;
* `FlagChange` — flags that are turned on or off, for a group or for the rest of the group around;
* `Scan`, `Scan.next?` — reading the next token, which depends on where it stands: outside sets or
  in them, and whether blanks and comments count for nothing;
* `tokens?` — the tokens of a text, if it has only such.

Counted repetition needs a closing brace, and there is none in the texts that are read here.
Classes of characters by their properties are not known.
-/

namespace LateBinding

namespace Pattern

/-! ### What tokens are -/

/-- Flags that are turned on or off; the others stay as they are. -/
structure FlagChange where
  /-- Characters match in either case. -/
  folding : Option Bool := none
  /-- Characters are meant, and not bytes. -/
  unicode : Option Bool := none
  /-- Blanks and comments count for nothing. -/
  verbose : Option Bool := none
  deriving DecidableEq, Repr

/-- What matches by itself. -/
inductive Atom where
  /-- A character; `asByte` if it is written by two hexadecimal digits. -/
  | literal (c : Char) (asByte : Bool)
  | any
  /-- An end of the text or of a line. -/
  | edge
  /-- A place where a word begins or ends, or does not. -/
  | wordEdge
  /-- Decimal digits, blanks or word characters; or all but these. -/
  | shorthand (negated : Bool)
  deriving DecidableEq, Repr

/-- What a set of characters is made of. -/
inductive Member where
  /-- The characters from `first` to `last`, often one. -/
  | range (first last : Char)
  /-- A set with a name, such as `[:alpha:]`; or all but these. -/
  | named (negated : Bool)
  /-- Decimal digits, blanks or word characters; or all but these. -/
  | shorthand (negated : Bool)
  deriving DecidableEq, Repr

/-- What a regular expression is written with. -/
inductive Token where
  | atom (a : Atom)
  /-- The expression in front of it may match several times, or not at all. -/
  | repetition
  /-- What is in front of it, or what is behind. -/
  | bar
  | openGroup (change : FlagChange) (name : Option (List Char))
  | closeGroup
  /-- Flags for the rest of the group. -/
  | flags (change : FlagChange)
  | openSet (negated : Bool)
  | member (m : Member)
  /-- Between two sets: what is in both, in the first only, or in one of them only. -/
  | operator
  | closeSet
  deriving DecidableEq, Repr

def Token.name? : Token → Option (List Char)
  | openGroup _ name => name
  | _ => none

/-! ### Pieces of tokens -/

/-- A text without the blanks and comments at its beginning; with `comment`, inside of one.  A
comment goes from a number sign to the end of the line. -/
def withoutComments : (comment : Bool) → List Char → List Char
  | _, [] => []
  | true, c :: cs => withoutComments (c ≠ '\n') cs
  | false, c :: cs =>
    if c = '#' then withoutComments true cs
    else if isBlank c then withoutComments false cs
    else c :: cs

def skip (verbose : Bool) (cs : List Char) : List Char :=
  if verbose then withoutComments false cs else cs

def hexDigit? (c : Char) : Option Nat :=
  if c.isDigit then some (c.toNat - '0'.toNat)
  else if 'a' ≤ c && c ≤ 'f' then some (c.toNat - 'a'.toNat + 10)
  else if 'A' ≤ c && c ≤ 'F' then some (c.toNat - 'A'.toNat + 10)
  else none

/-- Read so many hexadecimal digits, which follow those that make `value`. -/
def readHex? (verbose : Bool) : (digits value : Nat) → List Char → Option (Nat × List Char)
  | 0, value, cs => some (value, cs)
  | digits + 1, value, cs =>
    match skip verbose cs with
    | [] => none
    | c :: cs =>
      match hexDigit? c with
      | some digit => readHex? verbose digits (16 * value + digit) cs
      | none => none

/-- Read a character by its code point. -/
def readCodePoint? (verbose : Bool) (digits : Nat) (cs : List Char) :
    Option (Atom × List Char) :=
  match readHex? verbose digits 0 cs with
  | some (value, cs) =>
    if h : value.isValidChar then some (.literal (Char.ofNatAux value h) (digits = 2), cs) else none
  | none => none

def readEscape? (verbose : Bool) : List Char → Option (Atom × List Char)
  | [] => none
  | c :: cs =>
    match c with
    | 'x' => readCodePoint? verbose 2 cs
    | 'u' => readCodePoint? verbose 4 cs
    | 'U' => readCodePoint? verbose 8 cs
    | 'd' | 's' | 'w' => some (.shorthand false, cs)
    | 'D' | 'S' | 'W' => some (.shorthand true, cs)
    | 'a' => some (.literal '\x07' false, cs)
    | 'f' => some (.literal '\x0c' false, cs)
    | 'n' => some (.literal '\n' false, cs)
    | 'r' => some (.literal '\r' false, cs)
    | 't' => some (.literal '\t' false, cs)
    | 'v' => some (.literal '\x0b' false, cs)
    | 'A' | 'z' => some (.edge, cs)
    | 'b' | 'B' | '<' | '>' => some (.wordEdge, cs)
    | c => if c.toNat < 0x80 && !c.isAlphanum then some (.literal c false, cs) else none

/-- What a letter or a minus sign in the flags does to the change: what is behind the minus sign is
turned off. -/
def FlagChange.add : FlagChange × Bool → Char → FlagChange × Bool
  | (change, _), '-' => (change, false)
  | (change, on), 'i' => ({ change with folding := some on }, on)
  | (change, on), 'u' => ({ change with unicode := some on }, on)
  | (change, on), 'x' => ({ change with verbose := some on }, on)
  | (change, on), _ => (change, on)

/-- The flags of these letters; none is given twice, and something is behind a minus sign. -/
def FlagChange.ofLetters? (letters : List Char) : Option FlagChange :=
  if letters.all (· ∈ ['i', 'm', 's', 'U', 'u', 'R', 'x', '-']) && letters.Nodup &&
      letters.getLast? ≠ some '-' then
    some (letters.foldl FlagChange.add ({}, true)).1
  else none

def isName : List Char → Bool
  | [] => false
  | c :: cs =>
    (c = '_' || isAlphabetic c) &&
      cs.all fun c => isAlphanumeric c || c = '_' || c = '.' || c = '[' || c = ']'

def setNames : List String :=
  ["alnum", "alpha", "ascii", "blank", "cntrl", "digit", "graph", "lower", "print", "punct",
   "space", "upper", "word", "xdigit"]

/-- Read a named set behind its bracket; whether it is negated. -/
def readNamed? : List Char → Option (Bool × List Char)
  | ':' :: cs =>
    let (negated, cs) := match cs with
      | '^' :: cs => (true, cs)
      | cs => (false, cs)
    match cs.dropWhile (· ≠ ':') with
    | ':' :: ']' :: rest =>
      if String.ofList (cs.takeWhile (· ≠ ':')) ∈ setNames then some (negated, rest) else none
    | _ => none
  | _ => none

/-! ### Reading tokens -/

/-- Where a token stands. -/
inductive Place where
  | outside
  /-- At the beginning of a set, where hyphens stand for themselves, and a bracket does if there is
  no hyphen in front of it. -/
  | setStart (hyphen : Bool)
  | inSet
  deriving DecidableEq, Repr

/-- What the next token depends on. -/
structure Scan where
  place : Place := .outside
  nesting : Nat := 0
  /-- Whether blanks and comments count for nothing. -/
  verbose : Bool := false
  /-- The same for the groups around. -/
  outer : List Bool := []

namespace Scan

def openGroup (s : Scan) (change : FlagChange) : Scan :=
  { s with verbose := change.verbose.getD s.verbose, outer := s.verbose :: s.outer }

/-- Read what is behind an opening parenthesis. -/
def group? (s : Scan) (cs : List Char) : Option (Token × Scan × List Char) :=
  match skip s.verbose cs with
  | '?' :: 'P' :: '<' :: cs | '?' :: '<' :: cs =>
    let name := cs.takeWhile (· ≠ '>')
    match cs.dropWhile (· ≠ '>') with
    | _ :: cs => if isName name then some (.openGroup {} (some name), s.openGroup {}, cs) else none
    | [] => none
  | '?' :: cs =>
    let ends (c : Char) : Bool := c = ':' || c = ')'
    let letters := cs.takeWhile (!ends ·)
    match FlagChange.ofLetters? letters, cs.dropWhile (!ends ·) with
    | some change, ':' :: cs => some (.openGroup change none, s.openGroup change, cs)
    | some change, ')' :: cs =>
      if letters = [] then none
      else some (.flags change, { s with verbose := change.verbose.getD s.verbose }, cs)
    | _, _ => none
  | cs => some (.openGroup {} none, s.openGroup {}, cs)

/-- Read what is behind the bracket that opens a set. -/
def set (s : Scan) (cs : List Char) : Token × Scan × List Char :=
  let inner : Scan := { s with place := .setStart false, nesting := s.nesting + 1 }
  match skip s.verbose cs with
  | '^' :: cs => (.openSet true, inner, cs)
  | cs => (.openSet false, inner, cs)

/-- Read a token outside sets. -/
def outside? (s : Scan) (c : Char) (cs : List Char) : Option (Token × Scan × List Char) :=
  match c with
  | '(' => s.group? cs
  | ')' =>
    match s.outer with
    | verbose :: outer => some (.closeGroup, { s with verbose, outer }, cs)
    | [] => none
  | '[' => some (s.set cs)
  | '|' => some (.bar, s, cs)
  | '*' | '+' | '?' =>
    some (.repetition, s, match cs with
      | '?' :: cs => cs
      | cs => cs)
  | '\\' => (readEscape? s.verbose cs).map fun (a, cs) => (.atom a, s, cs)
  | '.' => some (.atom .any, s, cs)
  | '^' | '$' => some (.atom .edge, s, cs)
  | '{' => none
  | c => some (.atom (.literal c false), s, cs)

/-- Read a character of a set, or what stands for several. -/
def item? (s : Scan) (c : Char) (cs : List Char) : Option (Atom × List Char) :=
  if c = '\\' then readEscape? s.verbose cs else some (.literal c false, cs)

/-- The character behind a hyphen that decides what the hyphen means.  Of comments only the number
sign is skipped. -/
def glance? (s : Scan) (cs : List Char) : Option Char :=
  if s.verbose then
    match cs.dropWhile isBlank with
    | '#' :: cs => (cs.dropWhile isBlank).head?
    | cs => cs.head?
  else cs.head?

/-- Read a member of a set.  A hyphen makes a range unless a bracket or a hyphen is behind it. -/
def member? (s : Scan) (c : Char) (cs : List Char) : Option (Member × List Char) :=
  match s.item? c cs with
  | none => none
  | some (first, cs) =>
    let alone : Option (Member × List Char) := match first with
      | .literal c _ => some (.range c c, cs)
      | .shorthand negated => some (.shorthand negated, cs)
      | _ => none
    match skip s.verbose cs with
    | '-' :: rest =>
      if s.glance? rest = some ']' || s.glance? rest = some '-' then alone
      else match first, skip s.verbose rest with
        | .literal first _, c :: rest =>
          match s.item? c rest with
          | some (.literal last _, rest) =>
            if first ≤ last then some (.range first last, rest) else none
          | _ => none
        | _, _ => none
    | _ => alone

/-- Read a token in a set. -/
def inSet? (s : Scan) (c : Char) (cs : List Char) : Option (Token × Scan × List Char) :=
  match c, cs with
  | '[', cs =>
    match readNamed? cs with
    | some (negated, cs) => some (.member (.named negated), s, cs)
    | none => some (s.set cs)
  | ']', cs =>
    let place := if s.nesting ≤ 1 then .outside else .inSet
    some (.closeSet, { s with place, nesting := s.nesting - 1 }, cs)
  | '&', '&' :: cs | '-', '-' :: cs | '~', '~' :: cs => some (.operator, s, cs)
  | c, cs => (s.member? c cs).map fun (m, cs) => (.member m, s, cs)

/-- Read the next token, at its first character. -/
def next? (s : Scan) (c : Char) (cs : List Char) : Option (Token × Scan × List Char) :=
  match s.place with
  | .outside => s.outside? c cs
  | .inSet => s.inSet? c cs
  | .setStart hyphen =>
    if c = '-' then some (.member (.range '-' '-'), { s with place := .setStart true }, cs)
    else if c = ']' && !hyphen then
      some (.member (.range ']' ']'), { s with place := .inSet }, cs)
    else { s with place := .inSet }.inSet? c cs

/-- Read at most so many tokens, up to the end of the text. -/
def run : (limit : Nat) → (s : Scan) → List Char → Option (List Token)
  | limit, s, cs =>
    match skip s.verbose cs, limit with
    | [], _ => some []
    | _ :: _, 0 => none
    | c :: cs, limit + 1 =>
      match s.next? c cs with
      | some (token, s, cs) => (run limit s cs).map (token :: ·)
      | none => none

end Scan

/-- The tokens of a text.  Each takes a character at least, so the limit is not reached. -/
def tokens? (text : List Char) : Option (List Token) := Scan.run text.length {} text

end Pattern

end LateBinding
