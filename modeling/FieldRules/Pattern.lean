import FieldRules.Pattern.Search
import FieldRules.Pattern.Token

namespace FieldRules.Pattern

/-- A class that is open: its items since the last set operator, last first, and the operation that
waits for them. Operators are applied from the left, all with one precedence. -/
structure OpenClass where
  negated : Bool
  pending : Option (SetOperator × ClassTree)
  reversed : List ClassTree

namespace OpenClass

def start (negated : Bool) (leading : List Char) : OpenClass :=
  ⟨negated, none, leading.reverse.map fun c => .literal ⟨c, false⟩⟩

def push (cls : OpenClass) (item : ClassTree) : OpenClass :=
  { cls with reversed := item :: cls.reversed }

def body (cls : OpenClass) : ClassTree :=
  let items := ClassTree.ofItems cls.reversed.reverse
  match cls.pending with
  | some (op, left) => .operation op left items
  | none => items

def operator (cls : OpenClass) (op : SetOperator) : OpenClass :=
  ⟨cls.negated, some (op, cls.body), []⟩

end OpenClass

/-- An alternation that is open: its finished branches and the items of the current one, both last
first. -/
structure OpenBranches where
  finished : List Tree
  reversed : List Tree

namespace OpenBranches

def start : OpenBranches := ⟨[], []⟩

def push (branches : OpenBranches) (item : Tree) : OpenBranches :=
  { branches with reversed := item :: branches.reversed }

def bar (branches : OpenBranches) : OpenBranches :=
  ⟨Tree.ofItems branches.reversed.reverse :: branches.finished, []⟩

def tree (branches : OpenBranches) : Tree :=
  Tree.ofBranches branches.bar.finished.reverse

/-- Repeats the last item; flags are no item, and there has to be one. -/
def quantify? (branches : OpenBranches) (least : Nat) (most : Option Nat) (lazily : Bool) :
    Option OpenBranches :=
  match branches.reversed with
  | [] | .flags _ :: _ => none
  | item :: reversed =>
      some { branches with reversed := .repeated item least most lazily :: reversed }

end OpenBranches

/-- The groups that are open, the innermost first, each with the branches around it; the branches of
the innermost group; the classes that are open, the innermost first; and the group names so far. -/
structure Reading where
  groups : List (Opening × OpenBranches)
  branches : OpenBranches
  classes : List OpenClass
  names : List (List Char)

namespace Reading

def start : Reading := ⟨[], .start, [], []⟩

def push (reading : Reading) (item : Tree) : Reading :=
  { reading with branches := reading.branches.push item }

def innerStep? (reading : Reading) (cls : OpenClass) (classes : List OpenClass) (token : Token) :
    Option Reading :=
  let add (item : ClassTree) : Option Reading :=
    some { reading with classes := cls.push item :: classes }
  match token with
  | .literal letter => add (.literal letter)
  | .range first last => add (.range first last)
  | .posix name negated => add (.posix name negated)
  | .shorthand name negated => add (.shorthand name negated)
  | .property name negated => add (.property name negated)
  | .operator op => some { reading with classes := cls.operator op :: classes }
  | .openClass negated leading =>
      some { reading with classes := .start negated leading :: cls :: classes }
  | .closeClass =>
      match classes with
      | [] => some { reading.push (.bracket cls.negated cls.body) with classes := [] }
      | outer :: classes =>
          some { reading with
            classes := outer.push (.bracket cls.negated cls.body) :: classes }
  | _ => none

/-- A token outside of classes. Group names have to differ. -/
def outerStep? (reading : Reading) (token : Token) : Option Reading :=
  match token with
  | .literal letter => some (reading.push (.literal letter))
  | .dot => some (reading.push .dot)
  | .anchor anchor => some (reading.push (.anchor anchor))
  | .shorthand name negated => some (reading.push (.shorthand name negated))
  | .property name negated => some (reading.push (.property name negated))
  | .flags changes => some (reading.push (.flags changes))
  | .quantifier least most lazily =>
      (reading.branches.quantify? least most lazily).map fun branches =>
        { reading with branches := branches }
  | .bar => some { reading with branches := reading.branches.bar }
  | .openGroup opening =>
      let names := opening.name?.toList ++ reading.names
      if names.Nodup then
        some ⟨(opening, reading.branches) :: reading.groups, .start, [], names⟩
      else none
  | .closeGroup =>
      match reading.groups with
      | [] => none
      | (opening, outer) :: groups =>
          some { reading with
            groups := groups
            branches := outer.push (.group opening reading.branches.tree) }
  | .openClass negated leading =>
      some { reading with classes := [.start negated leading] }
  | _ => none

def step? (reading : Reading) (token : Token) : Option Reading :=
  match reading.classes with
  | [] => reading.outerStep? token
  | cls :: classes => reading.innerStep? cls classes token

def tree? (reading : Reading) : Option Tree :=
  match reading.groups, reading.classes with
  | [], [] => some reading.branches.tree
  | _, _ => none

end Reading

def Tree.ofText? (text : List Char) : Option Tree := do
  let tokens ← tokens? text
  let reading ← tokens.foldlM Reading.step? Reading.start
  reading.tree?

open FieldRules.Unicode

/-- What runs patterns: which sets have names, and which terms have programs that it can build. -/
class Engine where
  property? : List Char → Option CharSet
  builds : Term → Bool

/-- The flags that matter once a pattern has been read. -/
structure Flags where
  caseless : Bool
  multiline : Bool
  dotAll : Bool
  swapLazy : Bool
  crlf : Bool
  unicode : Bool

namespace Flags

def initial : Flags := ⟨false, false, false, false, false, true⟩

def change (flags : Flags) (change : FlagChange) : Flags :=
  match change.flag with
  | .caseless => { flags with caseless := change.on }
  | .multiline => { flags with multiline := change.on }
  | .dotAll => { flags with dotAll := change.on }
  | .crlf => { flags with crlf := change.on }
  | .unicode => { flags with unicode := change.on }
  | .swapLazy => { flags with swapLazy := change.on }
  | .extended => flags

def changeAll (flags : Flags) (changes : List FlagChange) : Flags :=
  changes.foldl change flags

end Flags

def isAscii (c : Char) : Bool := c.toNat < 0x80

namespace PosixClass

def set : PosixClass → CharSet
  | .alnum => .unionAll [.range '0' '9', .range 'A' 'Z', .range 'a' 'z']
  | .alpha => .unionAll [.range 'A' 'Z', .range 'a' 'z']
  | .ascii => .ascii
  | .blank => .unionAll [.single '\t', .single ' ']
  | .cntrl => .unionAll [.range '\x00' '\x1f', .single '\x7f']
  | .digit => .asciiDigit
  | .graph => .range '!' '~'
  | .lower => .range 'a' 'z'
  | .print => .range ' ' '~'
  | .punct =>
      .unionAll [.range '!' '/', .range ':' '@', .range '[' '\x60', .range '\x7b' '~']
  | .space => .asciiBlank
  | .upper => .range 'A' 'Z'
  | .word => .asciiWord
  | .xdigit => .unionAll [.range '0' '9', .range 'A' 'F', .range 'a' 'f']

end PosixClass

namespace SetOperator

def combine (left right : CharSet) : SetOperator → CharSet
  | .inter => left.inter right
  | .diff => left.diff right
  | .symmDiff => left.symmDiff right

end SetOperator

namespace Flags

variable (flags : Flags)

def fold (set : CharSet) : CharSet :=
  if !flags.caseless then set
  else if flags.unicode then set.caseVariants
  else set.asciiCaseVariants

/-- The complement of a set is described in Unicode mode only: without it all sets are ASCII. -/
def negate? (negated : Bool) (set : CharSet) : Option CharSet :=
  if !negated then some set
  else if flags.unicode then some set.compl
  else none

def foldNegate? (negated : Bool) (set : CharSet) : Option CharSet :=
  flags.negate? negated (flags.fold set)

def shorthandSet (name : Shorthand) : CharSet :=
  match name, flags.unicode with
  | .digit, true => Property.decimalDigit.set
  | .digit, false => .asciiDigit
  | .blank, true => Property.whiteSpace.set
  | .blank, false => .asciiBlank
  | .word, true => Property.word.set
  | .word, false => .asciiWord

def shorthand? (name : Shorthand) (negated : Bool) : Option CharSet :=
  flags.negate? negated (flags.shorthandSet name)

def property? [Engine] (name : List Char) (negated : Bool) : Option CharSet :=
  if flags.unicode then (Engine.property? name).bind (flags.foldNegate? negated) else none

/-- The set of the characters from `first` to `last`; without Unicode mode they have to be ASCII. -/
def range? (first last : Letter) : Option CharSet :=
  if flags.unicode || isAscii last.char then some (.range first.char last.char) else none

end Flags

namespace ClassTree

variable [Engine]

mutual
def set? (flags : Flags) : ClassTree → Option CharSet
  | .literal letter => flags.range? letter letter
  | .range first last => flags.range? first last
  | .posix name negated => flags.foldNegate? negated name.set
  | .shorthand name negated => flags.shorthand? name negated
  | .property name negated => flags.property? name negated
  | .bracket negated body =>
      ((set? flags body).bind (flags.foldNegate? negated)).map fun set => .unionAll [set]
  | .union items => (sets? flags items).map CharSet.unionAll
  | .operation op left right => do
      let left ← set? flags left
      let right ← set? flags right
      return op.combine (flags.fold left) (flags.fold right)

def sets? (flags : Flags) : List ClassTree → Option (List CharSet)
  | [] => some []
  | item :: items => do
      let set ← set? flags item
      let sets ← sets? flags items
      return set :: sets
end

end ClassTree

namespace Flags

variable (flags : Flags)

/-- A literal character; the other cases count only for letters of ASCII without Unicode mode. -/
def letter? (letter : Letter) : Option CharSet :=
  if !flags.unicode && letter.asByte && !isAscii letter.char then none
  else some (flags.fold (.single letter.char))

/-- The dot leaves out the line ends, unless it matches all, and needs Unicode mode. -/
def dot? : Option CharSet :=
  if !flags.unicode then none
  else if flags.dotAll then some .any
  else if flags.crlf then some (CharSet.unionAll [.single '\n', .single '\r']).compl
  else some (CharSet.single '\n').compl

def look (anchor : Anchor) : Look :=
  let word := flags.shorthandSet .word
  match anchor with
  | .lineStart =>
      if !flags.multiline then .textStart else if flags.crlf then .crlfLineStart else .lineStart
  | .lineEnd =>
      if !flags.multiline then .textEnd else if flags.crlf then .crlfLineEnd else .lineEnd
  | .textStart => .textStart
  | .textEnd => .textEnd
  | .wordBoundary => .wordBoundary word
  | .notWordBoundary => .notWordBoundary word
  | .wordStart => .wordStart word
  | .wordEnd => .wordEnd word
  | .wordStartHalf => .wordStartHalf word
  | .wordEndHalf => .wordEndHalf word

end Flags

namespace Tree

variable [Engine]

mutual
/-- The term of a tree under the flags in force before it, and the flags after it. -/
def term? (flags : Flags) : Tree → Option (Term × Flags)
  | .literal letter => (flags.letter? letter).map (.chars · flags.unicode, flags)
  | .dot => flags.dot?.map (.chars · flags.unicode, flags)
  | .anchor a => some (.look (flags.look a), flags)
  | .shorthand name negated =>
      (flags.shorthand? name negated).map (.chars · flags.unicode, flags)
  | .property name negated =>
      (flags.property? name negated).map (.chars · flags.unicode, flags)
  | .bracket negated body =>
      ((body.set? flags).bind (flags.foldNegate? negated)).map (.chars · flags.unicode, flags)
  | .flags changes => some (.empty, flags.changeAll changes)
  | .group opening body =>
      (term? (flags.changeAll opening.changes) body).map fun (term, _) =>
        match opening with
        | .capture _ => (.capture term, flags)
        | .plain _ => (term, flags)
  | .repeated body least most lazily =>
      (term? flags body).map fun (term, flags) =>
        (.repeated term least most (lazily != flags.swapLazy), flags)
  | .concat items => (terms? flags items).map fun (terms, flags) => (.concat terms, flags)
  | .alternation branches =>
      (terms? flags branches).map fun (terms, flags) => (.alternation terms, flags)

def terms? (flags : Flags) : List Tree → Option (List Term × Flags)
  | [] => some ([], flags)
  | tree :: trees => do
      let (term, flags) ← term? flags tree
      let (terms, flags) ← terms? flags trees
      return (term :: terms, flags)
end

end Tree

end FieldRules.Pattern

namespace FieldRules

/-- A search pattern. A text is one when it can be read, its parts are not nested too deeply, and
its programs can be built. -/
structure Pattern where
  expr : Pattern.Expr

namespace Pattern

def greatestDepth : Nat := 250

def ofText? [Engine] (text : String) : Option Pattern := do
  let tree ← Tree.ofText? text.toList
  let (term, _) ← tree.term? Flags.initial
  if tree.depth ≤ greatestDepth ∧ Engine.builds term then
    return ⟨term.expr⟩
  else none

def occursIn (pattern : Pattern) (text : String) : Bool :=
  pattern.expr.search text.toList

end Pattern

end FieldRules
