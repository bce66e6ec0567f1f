import FieldRules.Number
import FieldRules.Unicode.Property

namespace FieldRules.Pattern

/-! The tokens of a pattern text, and the trees that are read off them. In extended mode blanks and
comments are skipped between tokens and inside most of them. -/

inductive Flag where
  | caseless
  | multiline
  | dotAll
  | swapLazy
  | unicode
  | crlf
  | extended
deriving DecidableEq

structure FlagChange where
  flag : Flag
  on : Bool

/-- A literal character. One that was written as a byte, by exactly two hexadecimal digits, stands
for a character only in Unicode mode or below `0x80`. -/
structure Letter where
  char : Char
  asByte : Bool

inductive Anchor where
  | lineStart
  | lineEnd
  | textStart
  | textEnd
  | wordBoundary
  | notWordBoundary
  | wordStart
  | wordEnd
  | wordStartHalf
  | wordEndHalf

inductive Shorthand where
  | digit
  | blank
  | word

inductive PosixClass where
  | alnum
  | alpha
  | ascii
  | blank
  | cntrl
  | digit
  | graph
  | lower
  | print
  | punct
  | space
  | upper
  | word
  | xdigit

inductive SetOperator where
  | inter
  | diff
  | symmDiff

inductive ClassTree where
  | literal (letter : Letter)
  | range (first last : Letter)
  | posix (name : PosixClass) (negated : Bool)
  | shorthand (name : Shorthand) (negated : Bool)
  | property (name : List Char) (negated : Bool)
  | bracket (negated : Bool) (body : ClassTree)
  | union (items : List ClassTree)
  | operation (op : SetOperator) (left right : ClassTree)

/-- How a group starts: one that captures may have a name, any other one may change flags. -/
inductive Opening where
  | capture (name? : Option (List Char))
  | plain (changes : List FlagChange)

namespace Opening

def name? : Opening → Option (List Char)
  | .capture name? => name?
  | .plain _ => none

def changes : Opening → List FlagChange
  | .capture _ => []
  | .plain changes => changes

end Opening

inductive Tree where
  | literal (letter : Letter)
  | dot
  | anchor (anchor : Anchor)
  | shorthand (name : Shorthand) (negated : Bool)
  | property (name : List Char) (negated : Bool)
  | bracket (negated : Bool) (body : ClassTree)
  | flags (changes : List FlagChange)
  | group (opening : Opening) (body : Tree)
  | repeated (body : Tree) (least : Nat) (most : Option Nat) (lazily : Bool)
  | concat (items : List Tree)
  | alternation (branches : List Tree)

namespace ClassTree

def ofItems : List ClassTree → ClassTree
  | [item] => item
  | items => .union items

mutual
def depth : ClassTree → Nat
  | .bracket _ body => depth body + 1
  | .union [] => 0
  | .union items => itemsDepth items + 1
  | .operation _ left right => max (depth left) (depth right) + 1
  | _ => 0

def itemsDepth : List ClassTree → Nat
  | [] => 0
  | item :: items => max (depth item) (itemsDepth items)
end

end ClassTree

namespace Tree

def ofItems : List Tree → Tree
  | [item] => item
  | items => .concat items

def ofBranches : List Tree → Tree
  | [branch] => branch
  | branches => .alternation branches

mutual
def depth : Tree → Nat
  | .bracket _ body => body.depth + 1
  | .group _ body => depth body + 1
  | .repeated body _ _ _ => depth body + 1
  | .concat [] => 0
  | .concat items => allDepth items + 1
  | .alternation branches => allDepth branches + 1
  | _ => 0

def allDepth : List Tree → Nat
  | [] => 0
  | tree :: trees => max (depth tree) (allDepth trees)
end

end Tree

open FieldRules.Unicode

inductive Token where
  | literal (letter : Letter)
  | dot
  | anchor (anchor : Anchor)
  | shorthand (name : Shorthand) (negated : Bool)
  | property (name : List Char) (negated : Bool)
  | quantifier (least : Nat) (most : Option Nat) (lazily : Bool)
  | bar
  | openGroup (opening : Opening)
  | closeGroup
  | flags (changes : List FlagChange)
  | openClass (negated : Bool) (leading : List Char)
  | closeClass
  | range (first last : Letter)
  | posix (name : PosixClass) (negated : Bool)
  | operator (op : SetOperator)

def skipBlanks (inComment : Bool) : List Char → List Char
  | [] => []
  | c :: text =>
      if inComment then skipBlanks (c != '\n') text
      else if isBlank c then skipBlanks false text
      else if c = '#' then skipBlanks true text
      else c :: text

def skip (extended : Bool) (text : List Char) : List Char :=
  if extended then skipBlanks false text else text

namespace Token

/-- The characters up to a closing brace, in extended mode without blanks and comments. -/
def scanBraced? (extended inComment : Bool) : List Char → Option (List Char × List Char)
  | [] => none
  | c :: text =>
      if inComment then scanBraced? extended (c != '\n') text
      else if c = '\x7d' then some ([], text)
      else if extended && isBlank c then scanBraced? extended false text
      else if extended && c == '#' then scanBraced? extended true text
      else (scanBraced? extended false text).map fun (chars, rest) => (c :: chars, rest)

def plain (c : Char) (rest : List Char) : Option (Token × List Char) :=
  some (.literal ⟨c, false⟩, rest)

end Token

open Digits

namespace Token

def scanCount? (extended : Bool) : Nat → List Char → Option (List Char × List Char)
  | 0, text => some ([], text)
  | count + 1, text =>
      match skip extended text with
      | [] => none
      | c :: text =>
          (scanCount? extended count text).map fun (chars, rest) => (c :: chars, rest)

def codePoint? (n : Nat) : Option Char :=
  if h : n.isValidChar then some (Char.ofNatAux n h) else none

/-- The character behind `\x`, `\u` or `\U`: `count` hexadecimal digits, or any positive number of
them in braces. -/
def scanHex? (extended : Bool) (count : Nat) (text : List Char) : Option (Token × List Char) :=
  match skip extended text with
  | '\x7b' :: text =>
      (scanBraced? extended false text).bind fun (digits, rest) =>
        if digits.isEmpty then none
        else ((hexValue? digits).bind codePoint?).map fun c => (.literal ⟨c, false⟩, rest)
  | text =>
      (scanCount? extended count text).bind fun (digits, rest) =>
        ((hexValue? digits).bind codePoint?).map fun c => (.literal ⟨c, count == 2⟩, rest)

/-- The property name behind `\p` or `\P`: one character, or a name in braces. -/
def scanProperty? (extended negated : Bool) (text : List Char) : Option (Token × List Char) :=
  match skip extended text with
  | '\x7b' :: text =>
      (scanBraced? extended false text).map fun (name, rest) => (.property name negated, rest)
  | c :: rest => if c = '\\' then none else some (.property [c] negated, rest)
  | [] => none

/-- The assertion behind `\b`: a name in braces chooses another one than the word boundary, while a
brace before anything but a name is left for a quantifier. -/
def scanBoundary? (extended : Bool) (text : List Char) : Option (Token × List Char) :=
  match text with
  | '\x7b' :: inner =>
      match skip extended inner with
      | [] => none
      | c :: _ =>
          if c.isAlpha || c == '-' then
            (scanBraced? extended false inner).bind fun (name, rest) =>
              match String.ofList name with
              | "start" => some (.anchor .wordStart, rest)
              | "end" => some (.anchor .wordEnd, rest)
              | "start-half" => some (.anchor .wordStartHalf, rest)
              | "end-half" => some (.anchor .wordEndHalf, rest)
              | _ => none
          else some (.anchor .wordBoundary, text)
  | text => some (.anchor .wordBoundary, text)

/-- The token behind a backslash. Every other ASCII character that is no letter and no digit stands
for itself. -/
def scanEscape? (extended : Bool) : List Char → Option (Token × List Char)
  | [] => none
  | c :: rest =>
      match c with
      | 'x' => scanHex? extended 2 rest
      | 'u' => scanHex? extended 4 rest
      | 'U' => scanHex? extended 8 rest
      | 'p' => scanProperty? extended false rest
      | 'P' => scanProperty? extended true rest
      | 'd' => some (.shorthand .digit false, rest)
      | 'D' => some (.shorthand .digit true, rest)
      | 's' => some (.shorthand .blank false, rest)
      | 'S' => some (.shorthand .blank true, rest)
      | 'w' => some (.shorthand .word false, rest)
      | 'W' => some (.shorthand .word true, rest)
      | 'A' => some (.anchor .textStart, rest)
      | 'z' => some (.anchor .textEnd, rest)
      | 'b' => scanBoundary? extended rest
      | 'B' => some (.anchor .notWordBoundary, rest)
      | '<' => some (.anchor .wordStart, rest)
      | '>' => some (.anchor .wordEnd, rest)
      | 'a' => plain '\x07' rest
      | 'f' => plain '\x0c' rest
      | 't' => plain '\t' rest
      | 'n' => plain '\n' rest
      | 'r' => plain '\r' rest
      | 'v' => plain '\x0b' rest
      | c => if c.toNat < 0x80 && !c.isAlphanum then plain c rest else none

def posixClass? (name : String) : Option PosixClass :=
  match name with
  | "alnum" => some .alnum
  | "alpha" => some .alpha
  | "ascii" => some .ascii
  | "blank" => some .blank
  | "cntrl" => some .cntrl
  | "digit" => some .digit
  | "graph" => some .graph
  | "lower" => some .lower
  | "print" => some .print
  | "punct" => some .punct
  | "space" => some .space
  | "upper" => some .upper
  | "word" => some .word
  | "xdigit" => some .xdigit
  | _ => none

/-- The token behind `[:`, if a known name and `:]` follow. -/
def scanPosix? (text : List Char) : Option (Token × List Char) :=
  let negated := text.head? == some '^'
  let text := if negated then text.drop 1 else text
  match text.dropWhile (· != ':') with
  | ':' :: ']' :: rest =>
      (posixClass? (String.ofList (text.takeWhile (· != ':')))).map fun name =>
        (.posix name negated, rest)
  | _ => none

def scanHyphens (extended inComment : Bool) (count : Nat) : List Char → Nat × List Char
  | [] => (count, [])
  | c :: text =>
      if inComment then scanHyphens extended (c != '\n') count text
      else if c = '-' then scanHyphens extended false (count + 1) text
      else if extended && isBlank c then scanHyphens extended false count text
      else if extended && c == '#' then scanHyphens extended true count text
      else (count, c :: text)

/-- The token behind an opening bracket. Hyphens at the front of a class are literals, and so is a
closing bracket at its very front. -/
def scanOpenClass (extended : Bool) (text : List Char) : Token × List Char :=
  let text := skip extended text
  let negated := text.head? == some '^'
  let text := if negated then text.drop 1 else text
  match scanHyphens extended false 0 text with
  | (0, ']' :: rest) => (.openClass negated [']'], rest)
  | (count, rest) => (.openClass negated (List.replicate count '-'), rest)

def scanClassItem? (extended : Bool) : List Char → Option (Token × List Char)
  | [] => none
  | '\\' :: text =>
      match scanEscape? extended text with
      | some (.anchor _, _) => none
      | scanned => scanned
  | c :: rest => plain c rest

/-- The character that decides whether a hyphen makes a range. A comment is not passed over here:
its first character that is no blank counts. -/
def peek (extended : Bool) (text : List Char) : Option Char :=
  if extended then
    match text.dropWhile isBlank with
    | '#' :: text => (text.dropWhile isBlank).head?
    | text => text.head?
  else text.head?

def scanRange? (extended : Bool) (text : List Char) : Option (Token × List Char) :=
  (scanClassItem? extended text).bind fun (first, rest) =>
    match skip extended rest with
    | '-' :: text =>
        if peek extended text == some ']' || peek extended text == some '-' then
          some (first, '-' :: text)
        else
          (scanClassItem? extended (skip extended text)).bind fun (last, rest) =>
            match first, last with
            | .literal first, .literal last =>
                if first.char ≤ last.char then some (.range first last, rest) else none
            | _, _ => none
    | rest => some (first, rest)

/-- A token inside of a class. What looks like a POSIX class but is none opens a nested class. -/
def scanInner? (extended : Bool) : List Char → Option (Token × List Char)
  | '[' :: text =>
      match text with
      | ':' :: inner => (scanPosix? inner).or (some (scanOpenClass extended text))
      | text => some (scanOpenClass extended text)
  | ']' :: rest => some (.closeClass, rest)
  | '&' :: '&' :: rest => some (.operator .inter, rest)
  | '-' :: '-' :: rest => some (.operator .diff, rest)
  | '~' :: '~' :: rest => some (.operator .symmDiff, rest)
  | text => scanRange? extended text

def flag? (c : Char) : Option Flag :=
  match c with
  | 'i' => some .caseless
  | 'm' => some .multiline
  | 's' => some .dotAll
  | 'U' => some .swapLazy
  | 'u' => some .unicode
  | 'R' => some .crlf
  | 'x' => some .extended
  | _ => none

/-- The changes of `i-s` and the like: each flag at most once, at least one behind a hyphen. -/
def flagChanges? (text : List Char) : Option (List FlagChange) := do
  let raised ← (text.takeWhile (· != '-')).mapM flag?
  let lowered ←
    match text.dropWhile (· != '-') with
    | [] => some []
    | [_] => none
    | _ :: text => text.mapM flag?
  if (raised ++ lowered).Nodup then
    some (raised.map (⟨·, true⟩) ++ lowered.map (⟨·, false⟩))
  else none

/-- A name starts with a letter or an underscore; numbers, dots and brackets may follow. -/
def isGroupName : List Char → Bool
  | [] => false
  | first :: more =>
      (first == '_' || isNameLetter first) &&
        more.all fun c =>
          c == '_' || c == '.' || c == '[' || c == ']' || isNameLetter c || isNameNumber c

def scanGroupName? (text : List Char) : Option (Token × List Char) :=
  let name := text.takeWhile (· != '>')
  match text.dropWhile (· != '>') with
  | _ :: rest => if isGroupName name then some (.openGroup (.capture name), rest) else none
  | [] => none

def scanFlags? (text : List Char) : Option (Token × List Char) :=
  let inner := text.takeWhile fun c => c != ':' && c != ')'
  match text.dropWhile fun c => c != ':' && c != ')' with
  | ':' :: rest => (flagChanges? inner).map fun changes => (.openGroup (.plain changes), rest)
  | _ :: rest =>
      if inner.isEmpty then none
      else (flagChanges? inner).map fun changes => (.flags changes, rest)
  | [] => none

/-- The token behind an opening parenthesis; there are no groups that look around. -/
def scanGroup? (extended : Bool) (text : List Char) : Option (Token × List Char) :=
  match skip extended text with
  | '?' :: '=' :: _ | '?' :: '!' :: _ | '?' :: '<' :: '=' :: _ | '?' :: '<' :: '!' :: _ => none
  | '?' :: 'P' :: '<' :: text | '?' :: '<' :: text => scanGroupName? text
  | '?' :: text => scanFlags? text
  | text => some (.openGroup (.capture none), text)

def withBounds (least : Nat) (most : Option Nat) : List Char → Token × List Char
  | '?' :: rest => (.quantifier least most true, rest)
  | rest => (.quantifier least most false, rest)

def scanDecimal (text : List Char) : Option Nat × List Char :=
  let text := text.dropWhile isBlank
  let digits := text.takeWhile Char.isDigit
  let value := if digits.isEmpty then none else some (decimalValue digits)
  (value, (text.dropWhile Char.isDigit).dropWhile isBlank)

def greatestCount : Nat := 0xFFFFFFFF

/-- The bounds of `{n}`, `{n,}` and `{n,m}`, given what stands in the braces. -/
def bounds? (text : List Char) : Option (Nat × Option Nat) :=
  match scanDecimal text with
  | (some least, []) => if least ≤ greatestCount then some (least, some least) else none
  | (some least, [',']) => if least ≤ greatestCount then some (least, none) else none
  | (some least, ',' :: text) =>
      match scanDecimal text with
      | (some most, []) =>
          if least ≤ most ∧ most ≤ greatestCount then some (least, some most) else none
      | _ => none
  | _ => none

def scanCounted? (extended : Bool) (text : List Char) : Option (Token × List Char) :=
  (scanBraced? extended false text).bind fun (inner, rest) =>
    (bounds? inner).map fun (least, most) => withBounds least most (skip extended rest)

def scanOuter? (extended : Bool) : List Char → Option (Token × List Char)
  | [] => none
  | c :: rest =>
      match c with
      | '(' => scanGroup? extended rest
      | ')' => some (.closeGroup, rest)
      | '|' => some (.bar, rest)
      | '[' => some (scanOpenClass extended rest)
      | '?' => some (withBounds 0 (some 1) rest)
      | '*' => some (withBounds 0 none rest)
      | '+' => some (withBounds 1 none rest)
      | '\x7b' => scanCounted? extended rest
      | '\\' => scanEscape? extended rest
      | '.' => some (.dot, rest)
      | '^' => some (.anchor .lineStart, rest)
      | '$' => some (.anchor .lineEnd, rest)
      | c => plain c rest

end Token

/-- How the text is read at some point: whether in extended mode, which modes the open groups give
back, and how many classes are open. -/
structure Mode where
  extended : Bool
  outer : List Bool
  classes : Nat

namespace Mode

def start : Mode := ⟨false, [], 0⟩

def change (mode : Mode) (changes : List FlagChange) : Mode :=
  match changes.find? (·.flag == .extended) with
  | some change => { mode with extended := change.on }
  | none => mode

/-- The mode after a token; a parenthesis closes only a group that is open. -/
def next? (mode : Mode) (token : Token) : Option Mode :=
  match token with
  | .openGroup opening =>
      some ({ mode with outer := mode.extended :: mode.outer }.change opening.changes)
  | .flags changes => some (mode.change changes)
  | .closeGroup =>
      match mode.outer with
      | extended :: outer => some { mode with extended := extended, outer := outer }
      | [] => none
  | .openClass .. => some { mode with classes := mode.classes + 1 }
  | .closeClass => some { mode with classes := mode.classes - 1 }
  | _ => some mode

def scan? (mode : Mode) (text : List Char) : Option (Token × List Char) :=
  if mode.classes = 0 then Token.scanOuter? mode.extended text
  else Token.scanInner? mode.extended text

end Mode

/-- The tokens of a text of at most `length` characters read from some mode on, unless a part of it
is no token or a group or class stays open. A token takes at least one character. -/
def tokensFrom? (length : Nat) (mode : Mode) (text : List Char) : Option (List Token) :=
  match skip mode.extended text, length with
  | [], _ => if mode.outer.isEmpty && mode.classes == 0 then some [] else none
  | _, 0 => none
  | text, length + 1 => do
      let (token, rest) ← mode.scan? text
      let mode ← mode.next? token
      let tokens ← tokensFrom? length mode rest
      return token :: tokens

def tokens? (text : List Char) : Option (List Token) :=
  tokensFrom? text.length Mode.start text

end FieldRules.Pattern
