import FieldRules.Unicode.CharSet

namespace FieldRules.Pattern

open FieldRules.Unicode

inductive Look where
  | textStart
  | textEnd
  | lineStart
  | lineEnd
  | crlfLineStart
  | crlfLineEnd
  | wordBoundary (word : CharSet)
  | notWordBoundary (word : CharSet)
  | wordStart (word : CharSet)
  | wordEnd (word : CharSet)
  | wordStartHalf (word : CharSet)
  | wordEndHalf (word : CharSet)
deriving DecidableEq

structure Place where
  before : Option Char
  after : Option Char

namespace Look

def holds (look : Look) (place : Place) : Bool :=
  let wordBefore (word : CharSet) := place.before.any word.contains
  let wordAfter (word : CharSet) := place.after.any word.contains
  match look with
  | .textStart => place.before.isNone
  | .textEnd => place.after.isNone
  | .lineStart => place.before.all (· == '\n')
  | .lineEnd => place.after.all (· == '\n')
  | .crlfLineStart =>
      place.before.all (· == '\n') ||
        (place.before == some '\r' && place.after != some '\n')
  | .crlfLineEnd =>
      place.after.all (· == '\r') ||
        (place.after == some '\n' && place.before != some '\r')
  | .wordBoundary word => wordBefore word != wordAfter word
  | .notWordBoundary word => wordBefore word == wordAfter word
  | .wordStart word => !wordBefore word && wordAfter word
  | .wordEnd word => wordBefore word && !wordAfter word
  | .wordStartHalf word => !wordBefore word
  | .wordEndHalf word => !wordAfter word

def digest : Look → UInt64
  | .textStart => 0
  | .textEnd => 1
  | .lineStart => 2
  | .lineEnd => 3
  | .crlfLineStart => 4
  | .crlfLineEnd => 5
  | .wordBoundary word => Digest.ofWords [6, word.digest]
  | .notWordBoundary word => Digest.ofWords [7, word.digest]
  | .wordStart word => Digest.ofWords [8, word.digest]
  | .wordEnd word => Digest.ofWords [9, word.digest]
  | .wordStartHalf word => Digest.ofWords [10, word.digest]
  | .wordEndHalf word => Digest.ofWords [11, word.digest]

end Look

/-- A repetition `rep body least extra` has `least` rounds and up to `extra` more, any number of
them for `none`. The digest of an expression is kept with it. -/
inductive Expr where
  | empty
  | chars (set : CharSet)
  | look (assertion : Look)
  | seq (first second : Expr)
  | alt (left right : Expr)
  | rep (body : Expr) (least : Nat) (extra : Option Nat)
with
  @[computed_field]
  digest : Expr → UInt64
    | .empty => 0
    | .chars set => Digest.ofWords [1, set.digest]
    | .look assertion => Digest.ofWords [2, assertion.digest]
    | .seq first second => Digest.ofWords [3, first.digest, second.digest]
    | .alt left right => Digest.ofWords [4, left.digest, right.digest]
    | .rep body least extra =>
        Digest.ofWords [5, body.digest, .ofNat least, .ofNat (extra.elim 0 (· + 1))]

namespace Expr

instance : Hashable Expr := ⟨digest⟩

/-- Expressions with different digests differ; parts that are shared are not compared. -/
def decEq (a b : Expr) : Decidable (a = b) :=
  withPtrEqDecEq a b fun _ =>
    if same : a.digest = b.digest then
      match a with
      | .empty =>
          match b with
          | .empty => isTrue rfl
          | .chars _ | .look _ | .seq _ _ | .alt _ _ | .rep _ _ _ => isFalse nofun
      | .chars set =>
          match b with
          | .chars other =>
              if h : set = other then isTrue (h ▸ rfl) else isFalse fun e => h (Expr.chars.inj e)
          | .empty | .look _ | .seq _ _ | .alt _ _ | .rep _ _ _ => isFalse nofun
      | .look assertion =>
          match b with
          | .look other =>
              if h : assertion = other then isTrue (h ▸ rfl)
              else isFalse fun e => h (Expr.look.inj e)
          | .empty | .chars _ | .seq _ _ | .alt _ _ | .rep _ _ _ => isFalse nofun
      | .seq first second =>
          match b with
          | .seq first' second' =>
              match decEq first first', decEq second second' with
              | isTrue h, isTrue h' => isTrue (h ▸ h' ▸ rfl)
              | isFalse h, _ => isFalse fun e => h (Expr.seq.inj e).1
              | _, isFalse h => isFalse fun e => h (Expr.seq.inj e).2
          | .empty | .chars _ | .look _ | .alt _ _ | .rep _ _ _ => isFalse nofun
      | .alt left right =>
          match b with
          | .alt left' right' =>
              match decEq left left', decEq right right' with
              | isTrue h, isTrue h' => isTrue (h ▸ h' ▸ rfl)
              | isFalse h, _ => isFalse fun e => h (Expr.alt.inj e).1
              | _, isFalse h => isFalse fun e => h (Expr.alt.inj e).2
          | .empty | .chars _ | .look _ | .seq _ _ | .rep _ _ _ => isFalse nofun
      | .rep body least extra =>
          match b with
          | .rep body' least' extra' =>
              if h : least = least' ∧ extra = extra' then
                match decEq body body' with
                | isTrue h' => isTrue (h.1 ▸ h.2 ▸ h' ▸ rfl)
                | isFalse h' => isFalse fun e => h' (Expr.rep.inj e).1
              else isFalse fun e => h (Expr.rep.inj e).2
          | .empty | .chars _ | .look _ | .seq _ _ | .alt _ _ => isFalse nofun
    else isFalse fun e => same (e ▸ rfl)

instance : DecidableEq Expr := decEq

def seqAll (exprs : List Expr) : Expr :=
  exprs.foldr .seq .empty

def star (body : Expr) : Expr := .rep body 0 none

def plus (body : Expr) : Expr := .rep body 1 none

def optional (body : Expr) : Expr := .rep body 0 (some 1)

/-- The words that an expression matches between the text `before`, its last character first, and
the text `after`. -/
inductive Matches : Expr → List Char → List Char → List Char → Prop
  | empty {before after : List Char} : Matches .empty before [] after
  | chars {set : CharSet} {c : Char} {before after : List Char} (h : set.contains c) :
      Matches (.chars set) before [c] after
  | look {assertion : Look} {before after : List Char}
      (h : assertion.holds ⟨before.head?, after.head?⟩) : Matches (.look assertion) before [] after
  | seq {first second : Expr} {before after u v : List Char}
      (hfirst : Matches first before u (v ++ after))
      (hsecond : Matches second (u.reverse ++ before) v after) :
      Matches (.seq first second) before (u ++ v) after
  | left {left right : Expr} {before word after : List Char} (h : Matches left before word after) :
      Matches (.alt left right) before word after
  | right {left right : Expr} {before word after : List Char} (h : Matches right before word after) :
      Matches (.alt left right) before word after
  | done {body : Expr} {extra : Option Nat} {before after : List Char} :
      Matches (.rep body 0 extra) before [] after
  | round {body : Expr} {least : Nat} {extra : Option Nat} {before after u v : List Char}
      (hbody : Matches body before u (v ++ after))
      (hrest : Matches (.rep body least extra) (u.reverse ++ before) v after) :
      Matches (.rep body (least + 1) extra) before (u ++ v) after
  | extra {body : Expr} {more : Nat} {before after u v : List Char}
      (hbody : Matches body before u (v ++ after))
      (hrest : Matches (.rep body 0 (some more)) (u.reverse ++ before) v after) :
      Matches (.rep body 0 (some (more + 1))) before (u ++ v) after
  | unbounded {body : Expr} {before after u v : List Char}
      (hbody : Matches body before u (v ++ after))
      (hrest : Matches (.rep body 0 none) (u.reverse ++ before) v after) :
      Matches (.rep body 0 none) before (u ++ v) after

end Expr

/-- A set is one of bytes, all of them ASCII, where it was described without Unicode mode. -/
inductive Term where
  | empty
  | chars (set : CharSet) (unicode : Bool)
  | look (assertion : Look)
  | capture (body : Term)
  | repeated (body : Term) (least : Nat) (most : Option Nat) (lazily : Bool)
  | concat (items : List Term)
  | alternation (branches : List Term)

namespace Term

mutual
/-- What a term matches. It does not matter for it what is captured and which match comes first. -/
def expr : Term → Expr
  | .empty => .empty
  | .chars set _ => .chars set
  | .look assertion => .look assertion
  | .capture body => expr body
  | .repeated body least most _ => .rep (expr body) least (most.map (· - least))
  | .concat items => concatExpr items
  | .alternation branches => alternationExpr branches

def concatExpr : List Term → Expr
  | [] => .empty
  | item :: items => .seq (expr item) (concatExpr items)

def alternationExpr : List Term → Expr
  | [] => .chars .empty
  | branch :: branches => .alt (expr branch) (alternationExpr branches)
end

end Term

end FieldRules.Pattern
