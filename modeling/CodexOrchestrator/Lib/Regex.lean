import CodexOrchestrator.Lib.Text

/-!
# Regex — backtracking search, as Python's `re` does it

A pattern is matched from a position of the text, and answers with all the positions where a match
can end, in the order in which a backtracking matcher tries them.  The first one is the match.
-/

namespace Regex

/-- A place in the text: what is left of it, and the groups captured on the way. -/
structure Position where
  rest : List Char
  groups : List (String × String) := []

/-- A regular expression. -/
inductive Pattern where
  /-- One character that passes the test. -/
  | char (test : Char → Bool)
  | seq (first second : Pattern)
  /-- `first|second`. -/
  | either (first second : Pattern)
  /-- `(?:body)?`. -/
  | optional (body : Pattern)
  /-- `(?:body)*`, as often as possible. -/
  | star (body : Pattern)
  /-- `(?P<name>body)`. -/
  | group (name : String) (body : Pattern)
  /-- `$`: the end of the text, or the line break that ends it. -/
  | textEnd

/-- The text between two positions. -/
def between (start stop : Position) : String :=
  String.ofList (start.rest.take (start.rest.length - stop.rest.length))

/-- The ends of at most `n` rounds that each move on, the longest repetition first. -/
def starEnds (body : Position → List Position) : Nat → Position → List Position
  | 0, start => [start]
  | n + 1, start =>
      ((body start).filter fun stop => stop.rest.length < start.rest.length).flatMap
        (starEnds body n) ++ [start]

def Pattern.ends : Pattern → Position → List Position
  | .char test, start =>
      match start.rest with
      | [] => []
      | c :: rest => if test c then [{ start with rest }] else []
  | .seq first second, start => (first.ends start).flatMap second.ends
  | .either first second, start => first.ends start ++ second.ends start
  | .optional body, start => body.ends start ++ [start]
  | .star body, start => starEnds body.ends start.rest.length start
  | .group name body, start =>
      (body.ends start).map fun stop =>
        { stop with groups := (name, between start stop) :: stop.groups }
  | .textEnd, start => if start.rest = [] ∨ start.rest = ['\n'] then [start] else []

/-- `(?:body)+`. -/
def Pattern.plus (body : Pattern) : Pattern := .seq body (.star body)

/-- The patterns one after the other; the list is not empty where this is used. -/
def Pattern.sequence : List Pattern → Pattern
  | [] => .star (.char fun _ => false)
  | [last] => last
  | first :: rest => .seq first (sequence rest)

/-- `re.match(pattern, text)`. -/
def matchAt (pattern : Pattern) (text : List Char) : Option Position :=
  (pattern.ends { rest := text }).head?

/-- `re.search(pattern, text)`, on the characters of the text. -/
def searchFrom (pattern : Pattern) : List Char → Option Position
  | [] => matchAt pattern []
  | c :: rest =>
      match matchAt pattern (c :: rest) with
      | some found => some found
      | none => searchFrom pattern rest

/-- `re.search(pattern, text)`. -/
def search (pattern : Pattern) (text : String) : Option Position :=
  searchFrom pattern text.toList

/-- `match.group(name)`. -/
def Position.group? (position : Position) (name : String) : Option String :=
  position.groups.lookup name

/-- `re.sub("^" + pattern, "", text)`, for a pattern that does not match the empty text. -/
def dropAtStart (pattern : Pattern) (text : String) : String :=
  match matchAt pattern text.toList with
  | some found => String.ofList found.rest
  | none => text

/-! ## Classes of characters -/

/-- A letter of the pattern, given in lower case, under `re.IGNORECASE`.  Four characters outside
    ASCII have an ASCII letter as their other case. -/
def caseless (letter c : Char) : Bool :=
  c.toLower == letter || (letter == 'i' && (c.toNat == 0x130 || c.toNat == 0x131)) ||
    (letter == 's' && c.toNat == 0x17F) || (letter == 'k' && c.toNat == 0x212A)

/-- A word of lower-case letters under `re.IGNORECASE`. -/
def word (letters : String) : Pattern :=
  .sequence (letters.toList.map fun letter => .char (caseless letter))

/-- One character of the list. -/
def oneOf (chars : List Char) : Pattern :=
  .char fun c => c ∈ chars

/-- `\s`. -/
def space : Pattern :=
  .char PyText.isSpace

/-- `[^\n]`. -/
def notNewline : Pattern :=
  .char fun c => c ≠ '\n'

/-- The zeros of the scripts with decimal digits; the nine digits after each follow it. -/
def zeros : List Nat :=
  [0x30, 0x660, 0x6F0, 0x7C0, 0x966, 0x9E6, 0xA66, 0xAE6, 0xB66, 0xBE6, 0xC66, 0xCE6, 0xD66, 0xDE6,
    0xE50, 0xED0, 0xF20, 0x1040, 0x1090, 0x17E0, 0x1810, 0x1946, 0x19D0, 0x1A80, 0x1A90, 0x1B50,
    0x1BB0, 0x1C40, 0x1C50, 0xA620, 0xA8D0, 0xA900, 0xA9D0, 0xA9F0, 0xAA50, 0xABF0, 0xFF10,
    0x104A0, 0x10D30, 0x11066, 0x110F0, 0x11136, 0x111D0, 0x112F0, 0x11450, 0x114D0, 0x11650,
    0x116C0, 0x11730, 0x118E0, 0x11950, 0x11C50, 0x11D50, 0x11DA0, 0x16A60, 0x16AC0, 0x16B50,
    0x1D7CE, 0x1D7D8, 0x1D7E2, 0x1D7EC, 0x1D7F6, 0x1E140, 0x1E2F0, 0x1E950, 0x1FBF0]

/-- `\d`: the decimal digits of Unicode. -/
def digit : Pattern :=
  .char fun c => zeros.any fun first => first ≤ c.toNat && c.toNat < first + 10

/-! ## Splitting and replacing -/

/-- `str.replace(old, new)`, on characters; `old` is not empty.  `skip` characters of an occurrence
    are still to be dropped. -/
def replaceChars (old new : List Char) : Nat → List Char → List Char
  | _, [] => []
  | skip + 1, _ :: rest => replaceChars old new skip rest
  | 0, c :: rest =>
      if old.isPrefixOf (c :: rest) then new ++ replaceChars old new (old.length - 1) rest
      else c :: replaceChars old new 0 rest

/-- `text.replace(old, new)`. -/
def replace (text old new : String) : String :=
  String.ofList (replaceChars old.toList new.toList 0 text.toList)

/-- `re.split("[seps]", text)`. -/
def splitAt (seps : List Char) (text : String) : List String :=
  (text.toList.splitOnP fun c => c ∈ seps).map String.ofList

/-- A line boundary of `str.splitlines`, other than the pair `\r\n`. -/
def isLineBreak (c : Char) : Bool :=
  let n := c.toNat
  (10 ≤ n && n ≤ 13) || (28 ≤ n && n ≤ 30) || n == 0x85 || n == 0x2028 || n == 0x2029

/-- The lines after the characters `line` of an unfinished one. -/
def splitlinesFrom (line : List Char) : List Char → List String
  | [] => if line = [] then [] else [String.ofList line]
  | '\r' :: '\n' :: rest => String.ofList line :: splitlinesFrom [] rest
  | c :: rest =>
      if isLineBreak c then String.ofList line :: splitlinesFrom [] rest
      else splitlinesFrom (line ++ [c]) rest

/-- `text.splitlines()`. -/
def splitlines (text : String) : List String :=
  splitlinesFrom [] text.toList

end Regex
