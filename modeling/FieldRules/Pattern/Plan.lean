import FieldRules.Pattern.Expr

/-! Terms in a normal form, as they are laid out as programs: literals that stand side by side are
joined, nested concatenations and alternations are flat, and the branches of an alternation share no
first part. -/
namespace FieldRules.Pattern

open FieldRules.Unicode

inductive Plan where
  | empty
  | literal (text : List Char)
  | chars (set : CharSet) (unicode : Bool)
  | look (assertion : Look)
  | capture (body : Plan)
  | repeated (body : Plan) (least : Nat) (most : Option Nat) (lazily : Bool)
  | concat (items : List Plan)
  | alternation (branches : List Plan)

namespace Plan

mutual
/-- A lower bound for the number of characters that are matched; none if some set is empty. -/
def shortest? : Plan → Option Nat
  | .empty | .look _ => some 0
  | .literal text => some text.length
  | .chars set _ => if set.ranges.isEmpty then none else some 1
  | .capture body => shortest? body
  | .repeated body least _ _ => (shortest? body).map (· * least)
  | .concat items => (allShortest? items).map List.sum
  | .alternation branches => (allShortest? branches).bind List.min?

def allShortest? : List Plan → Option (List Nat)
  | [] => some []
  | plan :: plans => do
      let length ← shortest? plan
      let lengths ← allShortest? plans
      return length :: lengths
end

mutual
/-- The greatest number of characters that are matched; none without a bound, or if some set is
empty. -/
def longest? : Plan → Option Nat
  | .empty | .look _ => some 0
  | .literal text => some text.length
  | .chars set _ => if set.ranges.isEmpty then none else some 1
  | .capture body => longest? body
  | .repeated body _ most _ => do
      let most ← most
      let length ← longest? body
      return length * most
  | .concat items => (allLongest? items).map List.sum
  | .alternation branches => (allLongest? branches).bind List.max?

def allLongest? : List Plan → Option (List Nat)
  | [] => some []
  | plan :: plans => do
      let length ← longest? plan
      let lengths ← allLongest? plans
      return length :: lengths
end

def matchesNoChar (plan : Plan) : Bool := plan.longest? == some 0

mutual
/-- Whether two parts are written alike. No capture is like another: each one has its own group. -/
def alike : Plan → Plan → Bool
  | .empty, .empty => true
  | .literal text, .literal text' => text == text'
  | .chars set unicode, .chars set' unicode' => set == set' && unicode == unicode'
  | .look assertion, .look assertion' => assertion == assertion'
  | .repeated body least most lazily, .repeated body' least' most' lazily' =>
      alike body body' && least == least' && most == most' && lazily == lazily'
  | .concat items, .concat items' => allAlike items items'
  | .alternation branches, .alternation branches' => allAlike branches branches'
  | _, _ => false

def allAlike : List Plan → List Plan → Bool
  | [], [] => true
  | plan :: plans, plan' :: plans' => alike plan plan' && allAlike plans plans'
  | _, _ => false
end

def ofSet (set : CharSet) (unicode : Bool) : Plan :=
  match set.single? with
  | some c => .literal [c]
  | none => .chars set (unicode && !set.ranges.isEmpty)

def fail : Plan := ofSet .empty false

/-- Drops what is empty and joins literals that stand side by side. -/
def joinLiterals : List Plan → List Plan
  | [] => []
  | .empty :: items => joinLiterals items
  | .literal text :: items =>
      match joinLiterals items with
      | .literal more :: items => .literal (text ++ more) :: items
      | items => .literal text :: items
  | item :: items => item :: joinLiterals items

def items : Plan → List Plan
  | .concat items => items
  | plan => [plan]

def ofItems (plans : List Plan) : Plan :=
  match joinLiterals (plans.flatMap items) with
  | [] => .empty
  | [item] => item
  | items => .concat items

def branches : Plan → List Plan
  | .alternation branches => branches
  | plan => [plan]

def singleChar? : Plan → Option Char
  | .literal [c] => some c
  | _ => none

def set? : Plan → Option CharSet
  | .chars set _ => some set
  | _ => none

/-- The set of branches that match a single character each, all by a literal or all by a set. -/
def setOfBranches? (branches : List Plan) : Option CharSet :=
  ((branches.mapM singleChar?).map fun cs => .unionAll (cs.map .single)) <|>
    (branches.mapM set?).map .unionAll

def ofDistinctBranches (branches : List Plan) : Plan :=
  match branches with
  | [] => fail
  | [branch] => branch
  | branches =>
      match setOfBranches? branches with
      | some set => ofSet set true
      | none => .alternation branches

def commonItems : List Plan → List Plan → List Plan
  | item :: items, item' :: items' =>
      if alike item item' then item :: commonItems items items' else []
  | _, _ => []

def sharedItems (branches : List Plan) : List Plan :=
  let concat? : Plan → Option (List Plan)
    | .concat items => some items
    | _ => none
  match branches.mapM concat? with
  | some (first :: second :: more) => (second :: more).foldl commonItems first
  | _ => []

/-- An alternation. What the branches start with alike is taken out of it. -/
def ofBranches (plans : List Plan) : Plan :=
  let flat := plans.flatMap branches
  match sharedItems flat with
  | [] => ofDistinctBranches flat
  | shared =>
      let rests := flat.map fun branch => ofItems (branch.items.drop shared.length)
      ofItems (shared ++ [ofDistinctBranches (rests.flatMap branches)])

/-- A repetition. What matches no character is repeated once at most. -/
def ofRounds (body : Plan) (least : Nat) (most : Option Nat) (lazily : Bool) : Plan :=
  let (least, most) :=
    if body.matchesNoChar then (min least 1, some (min (most.getD 1) 1)) else (least, most)
  if most = some 0 then .empty
  else if least = 1 ∧ most = some 1 then body
  else .repeated body least most lazily

mutual
def ofTerm : Term → Plan
  | .empty => .empty
  | .chars set unicode => ofSet set unicode
  | .look assertion => .look assertion
  | .capture body => .capture (ofTerm body)
  | .repeated body least most lazily => ofRounds (ofTerm body) least most lazily
  | .concat terms => ofItems (ofTerms terms)
  | .alternation terms => ofBranches (ofTerms terms)

def ofTerms : List Term → List Plan
  | [] => []
  | term :: terms => ofTerm term :: ofTerms terms
end

mutual
def startsWith (look : Look) : Plan → Bool
  | .look assertion => assertion == look
  | .capture body => startsWith look body
  | .repeated body least _ _ => least != 0 && startsWith look body
  | .concat items => leadsWith look items
  | .alternation branches => allStartWith look branches
  | _ => false

def leadsWith (look : Look) : List Plan → Bool
  | [] => false
  | item :: items => startsWith look item || (item.matchesNoChar && leadsWith look items)

def allStartWith (look : Look) : List Plan → Bool
  | [] => true
  | branch :: branches => startsWith look branch && allStartWith look branches
end

mutual
def endsWith (look : Look) : Plan → Bool
  | .look assertion => assertion == look
  | .capture body => endsWith look body
  | .repeated body least _ _ => least != 0 && endsWith look body
  | .concat items => trailsWith look items
  | .alternation branches => allEndWith look branches
  | _ => false

def trailsWith (look : Look) : List Plan → Bool
  | [] => false
  | item :: items => trailsWith look items || (items.all matchesNoChar && endsWith look item)

def allEndWith (look : Look) : List Plan → Bool
  | [] => true
  | branch :: branches => endsWith look branch && allEndWith look branches
end

end Plan

end FieldRules.Pattern
