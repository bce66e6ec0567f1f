import FieldRules.Pattern.Expr
import Std.Data.HashSet

/-! Searching a text for a match of an expression. The expressions that are left to match after
the characters read so far are kept as a set, so a search takes one pass over the text. -/
namespace FieldRules.Pattern

namespace Expr

def nullable (place : Place) : Expr → Bool
  | .empty => true
  | .chars _ => false
  | .look assertion => assertion.holds place
  | .seq first second => first.nullable place && second.nullable place
  | .alt left right => left.nullable place || right.nullable place
  | .rep body least _ => least == 0 || body.nullable place

/-- A measure that is less where sequences are grouped to the right. -/
def weight : Expr → Nat
  | .seq first second => 2 * first.weight + second.weight + 1
  | _ => 1

def andThen (first rest : Expr) : Expr :=
  match rest with
  | .empty => first
  | rest => .seq first rest

def afterRound? (body : Expr) : Nat → Option Nat → Option Expr
  | least + 1, extra => some (.rep body least extra)
  | 0, some (more + 1) => some (.rep body 0 (some more))
  | 0, some 0 => none
  | 0, none => some (.rep body 0 none)

/-- What may be left to match of an expression and `rest` after it, once the expression has read the
character `c` at a place. In a repetition whose body matches nothing at the place, rounds may pass
before the one that reads `c`. -/
def residuals (place : Place) (c : Char) : Expr → Expr → List Expr
  | .empty, _ => []
  | .chars set, rest => if set.contains c then [rest] else []
  | .look _, _ => []
  | .seq first second, rest =>
      first.residuals place c (second.andThen rest) ++
        (if first.nullable place then second.residuals place c rest else [])
  | .alt left right, rest => left.residuals place c rest ++ right.residuals place c rest
  | .rep body least extra, rest =>
      let again? :=
        if body.nullable place then afterRound? body 0 (extra.map (· + least))
        else afterRound? body least extra
      match again? with
      | some again => body.residuals place c (again.andThen rest)
      | none => []

/-- Adds an expression and, past first parts that match nothing, what comes after them. What is
added starts with no sequence. Where it is there already, so is the rest. -/
def enter (place : Place) (entered : Std.HashSet Expr) : Expr → Std.HashSet Expr
  | .seq (.seq first second) third => enter place entered (.seq first (.seq second third))
  | expr@(.seq first second) =>
      if entered.contains expr then entered
      else if first.nullable place then (enter place entered second).insert expr
      else entered.insert expr
  | expr => entered.insert expr
termination_by expr => expr.weight
decreasing_by all_goals simp only [weight]; omega

/-- The expressions to go on from where `exprs` are left to match, each once, in some order. -/
def heads (place : Place) (exprs : List Expr) : List Expr :=
  (exprs.foldl (enter place) ∅).toList

/-- Whether a head matches the empty word, unless the head after its first part tells. -/
def done (place : Place) : Expr → Bool
  | .seq _ _ => false
  | expr => expr.nullable place

def advance (place : Place) (c : Char) : Expr → List Expr
  | .seq first second => first.residuals place c second
  | expr => expr.residuals place c .empty

/-- Whether one of `pending`, or `expr` from some place on, matches a word at the front of a text
that comes after the character `before`. -/
def searchFrom (expr : Expr) (before : Option Char) (pending : List Expr) : List Char → Bool
  | [] =>
      let place : Place := ⟨before, none⟩
      (heads place (expr :: pending)).any (done place)
  | c :: text =>
      let place : Place := ⟨before, some c⟩
      let heads := heads place (expr :: pending)
      heads.any (done place) || expr.searchFrom (some c) (heads.flatMap (advance place c)) text

def search (expr : Expr) (text : List Char) : Bool :=
  expr.searchFrom none [] text

/-- The expressions to go on from where an expression is left to match: itself, with its sequences
grouped to the right, and what comes after first parts that match nothing. -/
inductive LeadsTo (place : Place) : Expr → Expr → Prop
  | refl {expr : Expr} (h : ∀ first second third, expr ≠ .seq (.seq first second) third) :
      LeadsTo place expr expr
  | regroup {first second third head : Expr}
      (h : LeadsTo place (.seq first (.seq second third)) head) :
      LeadsTo place (.seq (.seq first second) third) head
  | skip {first second head : Expr} (h : ∀ first' second', first ≠ .seq first' second')
      (hnull : first.nullable place) (hsecond : LeadsTo place second head) :
      LeadsTo place (.seq first second) head

variable {place : Place} {entered : Std.HashSet Expr} {expr head : Expr} {exprs : List Expr}

theorem LeadsTo.trans {middle : Expr} (h : LeadsTo place expr middle)
    (h' : LeadsTo place middle head) : LeadsTo place expr head := by
  induction h with
  | refl => exact h'
  | regroup _ ih => exact .regroup (ih h')
  | skip hfirst hnull _ ih => exact .skip hfirst hnull (ih h')

theorem LeadsTo.regroup_iff {first second third : Expr} :
    LeadsTo place (.seq (.seq first second) third) head ↔
      LeadsTo place (.seq first (.seq second third)) head := by
  constructor
  · intro h
    cases h with
    | refl hhead => exact absurd rfl (hhead _ _ _)
    | regroup h => exact h
    | skip hfirst => exact absurd rfl (hfirst _ _)
  · exact .regroup

theorem LeadsTo.seq_iff {first second : Expr} (hfirst : ∀ a b, first ≠ .seq a b) :
    LeadsTo place (.seq first second) head ↔
      .seq first second = head ∨ first.nullable place ∧ LeadsTo place second head := by
  constructor
  · intro h
    cases h with
    | refl => exact .inl rfl
    | regroup => exact absurd rfl (hfirst _ _)
    | skip _ hnull hsecond => exact .inr ⟨hnull, hsecond⟩
  · rintro (rfl | ⟨hnull, hsecond⟩)
    · exact .refl fun a b _ heq => hfirst a b (Expr.seq.inj heq).1
    · exact .skip hfirst hnull hsecond

theorem LeadsTo.single_iff (hseq : ∀ first second, expr ≠ .seq first second) :
    LeadsTo place expr head ↔ expr = head := by
  constructor
  · intro h
    cases h with
    | refl => rfl
    | regroup => exact absurd rfl (hseq _ _)
    | skip => exact absurd rfl (hseq _ _)
  · rintro rfl
    exact .refl fun _ _ _ => hseq _ _

def Closed (place : Place) (entered : Std.HashSet Expr) : Prop :=
  ∀ expr ∈ entered, ∀ head, LeadsTo place expr head → head ∈ entered

theorem mem_enter (hclosed : Closed place entered) :
    head ∈ enter place entered expr ↔ head ∈ entered ∨ LeadsTo place expr head := by
  fun_induction enter place entered expr with
  | case1 first second third ih => rw [ih, LeadsTo.regroup_iff]
  | case2 first second hfirst hmem =>
    exact ⟨.inl, fun h => h.elim id (hclosed _ (by simpa using hmem) head)⟩
  | case3 first second hfirst hmem hnull ih =>
    rw [Std.HashSet.mem_insert, ih, beq_iff_eq, LeadsTo.seq_iff hfirst]
    simp only [hnull, true_and]
    exact or_left_comm
  | case4 first second hfirst hmem hnull =>
    rw [Std.HashSet.mem_insert, beq_iff_eq, LeadsTo.seq_iff hfirst]
    simp only [hnull, Bool.false_eq_true, false_and, or_false]
    exact or_comm
  | case5 expr _ hseq =>
    rw [Std.HashSet.mem_insert, beq_iff_eq, LeadsTo.single_iff hseq]
    exact or_comm

theorem Closed.enter (hclosed : Closed place entered) :
    Closed place (Expr.enter place entered expr) := by
  intro middle hmem head hhead
  rw [mem_enter hclosed] at hmem ⊢
  exact hmem.imp (fun h => hclosed middle h head hhead) (·.trans hhead)

@[simp] theorem mem_heads : head ∈ heads place exprs ↔ ∃ expr ∈ exprs, LeadsTo place expr head := by
  have hfold (entered : Std.HashSet Expr) (hclosed : Closed place entered) :
      head ∈ exprs.foldl (enter place) entered ↔
        head ∈ entered ∨ ∃ expr ∈ exprs, LeadsTo place expr head := by
    induction exprs generalizing entered with
    | nil => simp
    | cons expr exprs ih =>
      rw [List.foldl_cons, ih _ hclosed.enter, mem_enter hclosed, or_assoc]
      simp
  rw [heads, Std.HashSet.mem_toList, hfold ∅ (by simp [Closed])]
  simp

end Expr

end FieldRules.Pattern
