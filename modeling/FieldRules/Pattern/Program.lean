import FieldRules.Pattern
import FieldRules.Pattern.Plan
import Std.Data.HashMap

/-! How much room the programs of a plan take. A program is a list of states with edges between
them; only the number of its states and the bytes of its edges are kept. A plan has a program that
reads forwards and one that reads backwards, and both have to be small enough. -/

namespace FieldRules.Pattern

structure Program where
  states : Nat
  edgeBytes : Nat

namespace Program

/-- The bytes of a state without its edges. -/
def stateSize : Nat := 32

/-- The bytes of an edge that reads a byte of some range. -/
def readSize : Nat := 8

/-- The bytes of an edge that reads nothing. -/
def jumpSize : Nat := 4

def greatestSize : Nat := 10 * 1024 * 1024

def start : Program := ⟨0, 0⟩

def size (program : Program) : Nat :=
  stateSize * program.states + program.edgeBytes

def add (states edgeBytes : Nat) (program : Program) : Program :=
  ⟨program.states + states, program.edgeBytes + edgeBytes⟩

def bounded? (program : Program) : Option Program :=
  if program.size ≤ greatestSize then some program else none

/-- A step taken a number of times, as long as there is room. -/
def times? (step : Program → Option Program) : Nat → Program → Option Program
  | 0, program => some program
  | count + 1, program =>
      match step program with
      | some program => times? step count program
      | none => none

end Program

/-- A memory of states with a fixed number of slots. A state that is put into the slot of another
one replaces it. -/
structure Memory (Key : Type) where
  capacity : UInt64
  slots : Std.HashMap UInt64 (Key × Nat)

namespace Memory

variable {Key : Type} [BEq Key]

def start (capacity : UInt64) : Memory Key := ⟨capacity, ∅⟩

def find? (memory : Memory Key) (digest : UInt64) (key : Key) : Option Nat :=
  (memory.slots[digest % memory.capacity]?).bind fun (kept, state) =>
    if kept == key then some state else none

def put (memory : Memory Key) (digest : UInt64) (key : Key) (state : Nat) : Memory Key :=
  { memory with slots := memory.slots.insert (digest % memory.capacity) (key, state) }

end Memory

open FieldRules.Unicode

/-- A tree of words; the empty tree is the end of a word. -/
inductive WordTree where
  | node (edges : List (ByteRange × WordTree))

namespace WordTree

def leaf : WordTree := .node []

def ofWord (word : List ByteRange) : WordTree :=
  word.foldr (fun range tree => .node [(range, tree)]) leaf

/-- Puts a word in front of the words of a tree. It shares the first edge if it starts alike. -/
def cons : List ByteRange → WordTree → WordTree
  | [], tree => tree
  | range :: word, .node [] => .node [(range, ofWord word)]
  | range :: word, .node ((first, tree) :: edges) =>
      if range == first then .node ((first, cons word tree) :: edges)
      else .node ((range, ofWord word) :: (first, tree) :: edges)

def ofWords (words : List (List ByteRange)) : WordTree :=
  words.foldr cons leaf

end WordTree

abbrev Edge := ByteRange × Nat

namespace Edge

def digest (edges : List Edge) : UInt64 :=
  edges.foldl (fun digest ((first, last), next) =>
    Digest.add (Digest.add (Digest.add digest first.toUInt64) last.toUInt64) (.ofNat next))
    Digest.start

end Edge

namespace Program

def stateOf (edges : List Edge) (program : Program) (memory : Memory (List Edge)) :
    Nat × Program × Memory (List Edge) :=
  let digest := Edge.digest edges
  match memory.find? digest edges with
  | some state => (state, program, memory)
  | none =>
      (program.states, program.add 1 (readSize * edges.length),
        memory.put digest edges program.states)

mutual
/-- The first state of a tree, whose words end at the state `target`. States with the same edges are
used again, as far as the memory still has them. -/
def addTree (target : Nat) : WordTree → Program → Memory (List Edge) →
    Nat × Program × Memory (List Edge)
  | .node [], program, memory => (target, program, memory)
  | .node edges, program, memory =>
      let (edges, program, memory) := addEdges target edges program memory
      program.stateOf edges memory

def addEdges (target : Nat) : List (ByteRange × WordTree) → Program → Memory (List Edge) →
    List Edge × Program × Memory (List Edge)
  | [], program, memory => ([], program, memory)
  | (range, tree) :: edges, program, memory =>
      let (next, program, memory) := addTree target tree program memory
      let (edges, program, memory) := addEdges target edges program memory
      ((range, next) :: edges, program, memory)
end

def forwards (tree : WordTree) (program : Program) : Program :=
  (addTree program.states tree (program.add 1 0) (.start 10000)).2.1

abbrev Link := Nat × ByteRange

/-- Adds a chain that reads a word from its last byte to its first, the end of the word coming
first. Chains that end alike share their states, as far as the memory still has them. -/
def addChain (target : Nat) (word : List ByteRange) (program : Program) (memory : Memory Link) :
    Program × Memory Link :=
  match word with
  | [] => (program, memory)
  | range :: word =>
      let digest := Digest.ofWords [.ofNat target, range.1.toUInt64, range.2.toUInt64]
      match memory.find? digest (target, range) with
      | some state => addChain state word program memory
      | none =>
          addChain program.states word (program.add 1 0)
            (memory.put digest (target, range) program.states)

/-- Adds the chains of words, with a state that branches into them and a state for their ends. -/
def backwards (words : List (List ByteRange)) (program : Program) : Program :=
  let target := program.states + 1
  (words.foldl (fun (program, memory) word => addChain target word program memory)
    (program.add 2 (jumpSize * words.length), .start 1000)).1

def partsBetweenEnds (words : List (List UInt8)) : List (List (List UInt8)) :=
  words.splitBy fun word next => !word.isEmpty && !next.isEmpty

def firstBytes (words : List (List UInt8)) : List UInt8 :=
  (words.filterMap List.head?).eraseDups

def tails (byte : UInt8) (words : List (List UInt8)) : List (List UInt8) :=
  words.filterMap fun
    | first :: word => if first == byte then some word else none
    | [] => none

/-- Adds the tree of some words, all of them of at most `height` bytes. There are no states for a
tree whose words are all at their end. Another tree has a state for each of its parts and one that
branches into the parts and the ends between them; ends in front of all parts count as one. -/
def addLiterals : (height : Nat) → List (List UInt8) → Program → Program
  | 0, _, program => program
  | height + 1, words, program =>
      if words.all List.isEmpty then program
      else
        let ends := words.takeWhile List.isEmpty
        let words := words.dropWhile List.isEmpty
        let parts := (partsBetweenEnds words).filter fun part => !part.all List.isEmpty
        let jumps := parts.length + min ends.length 1 + words.countP List.isEmpty
        let program := parts.foldl (fun program part =>
          let bytes := firstBytes part
          let program := bytes.foldl (fun program byte =>
            addLiterals height (tails byte part) program) program
          program.add 1 (if bytes.length = 1 then 0 else readSize * bytes.length)) program
        program.add 1 (jumpSize * jumps)

def literals (words : List (List UInt8)) (program : Program) : Program :=
  let height := (words.map List.length).max?.getD 0
  addLiterals (height + 1) words (program.add 1 0)

end Program

inductive Block where
  | states (count edgeBytes : Nat)
  | literals (words : List (List UInt8))
  | tree (root : WordTree)
  | chains (words : List (List ByteRange))
  | series (blocks : List Block)
  | times (count : Nat) (block : Block)

namespace Block

open Program

def state : Block := .states 1 0

def branch : Block := .states 1 (2 * jumpSize)

mutual
def place? : Block → Program → Option Program
  | .states count edgeBytes, program => (program.add count edgeBytes).bounded?
  | .literals words, program => (program.literals words).bounded?
  | .tree root, program => (program.forwards root).bounded?
  | .chains words, program => (program.backwards words).bounded?
  | .series blocks, program => placeAll? blocks program
  | .times count block, program => Program.times? (place? block) count program

def placeAll? : List Block → Program → Option Program
  | [], program => some program
  | block :: blocks, program =>
      match place? block program with
      | some program => placeAll? blocks program
      | none => none
end

def exactly (count : Nat) (block : Block) : Block :=
  if count = 0 then state else .times count block

/-- A repetition of a block; whether the block reads something matters if it may be left out. -/
def repeated (block : Block) (reads : Bool) (least : Nat) (most : Option Nat) : Block :=
  match least, most with
  | 0, some 1 => .series [branch, block, state]
  | 0, none =>
      if reads then .series [branch, block] else .series [block, branch, branch, state]
  | 1, none => .series [block, branch]
  | least, none => .series [.times least block, branch]
  | least, some most =>
      if least = most then exactly least block
      else .series [exactly least block, state, .times (most - least) (.series [branch, block])]

def ofSet (set : CharSet) (backwards : Bool) : Block :=
  if set.isAscii then .states 2 (readSize * set.ranges.length)
  else if backwards then .chains set.words
  else .tree (.ofWords set.words)

def alternation : List Block → Block
  | first :: second :: more =>
      .series (first :: second :: .states 2 (jumpSize * (more.length + 2)) :: more)
  | blocks => .series blocks

def word (text : List Char) (backwards : Bool) : List UInt8 :=
  let bytes := text.flatMap String.utf8EncodeChar
  if backwards then bytes.reverse else bytes

def literal? : Plan → Option (List Char)
  | .literal text => some text
  | _ => none

mutual
def ofPlan (backwards : Bool) : Plan → Block
  | .empty | .look _ => state
  | .literal text => .states (text.map Char.utf8Size).sum 0
  | .chars set _ => ofSet set backwards
  | .capture body =>
      if backwards then ofPlan backwards body
      else .series [state, ofPlan backwards body, state]
  | .repeated body least most _ =>
      repeated (ofPlan backwards body) (body.shortest?.any (0 < ·)) least most
  | .concat items =>
      let blocks := ofPlans backwards items
      .series (if backwards then blocks.reverse else blocks)
  | .alternation branches =>
      match branches.mapM literal? with
      | some texts => .literals (texts.map (word · backwards))
      | none => alternation (ofPlans backwards branches)

def ofPlans (backwards : Bool) : List Plan → List Block
  | [] => []
  | plan :: plans => ofPlan backwards plan :: ofPlans backwards plans
end

/-- The states in front of a program. One that may start anywhere first skips bytes. -/
def lead (anchored : Bool) : Block :=
  if anchored then state else .series [branch, .states 2 readSize]

end Block

namespace Plan

/-- The whole program of a plan. Read forwards it also captures what it matches. -/
def block (plan : Plan) (backwards : Bool) : Block :=
  if backwards then
    .series [.lead (plan.endsWith .textEnd), .ofPlan true plan, .state]
  else
    .series [.lead (plan.startsWith .textStart), .state, .ofPlan false plan, .state, .state]

def hasPrograms (plan : Plan) : Bool :=
  [false, true].all fun backwards => ((plan.block backwards).place? .start).isSome

/-- Whether a plan is an alternation of so many literals that they are searched for all at once,
without a program. -/
def needsNoProgram : Plan → Bool
  | .alternation branches => (branches.mapM Block.literal?).isSome && 3000 ≤ branches.length
  | _ => false

end Plan

/-- An engine that knows the properties of `Unicode.Property` and builds programs of at most
`Program.greatestSize` bytes. -/
instance Engine.listed : Engine where
  property? name := (Property.ofName? name).map Property.set
  builds term :=
    let plan := Plan.ofTerm term
    plan.needsNoProgram || plan.hasPrograms

end FieldRules.Pattern
