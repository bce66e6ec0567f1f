import FieldRules.Pattern.Expr
import Mathlib.Computability.Language

namespace FieldRules.Pattern.Expr

open FieldRules.Unicode

variable {set : CharSet} {assertion : Look} {first second left right body : Expr} {least n : Nat}
  {extra : Option Nat} {before after word u v : List Char}

@[simp] theorem matches_empty : Matches .empty before word after ↔ word = [] := by
  constructor
  · intro h
    cases h
    rfl
  · rintro rfl
    exact .empty

@[simp] theorem matches_chars :
    Matches (.chars set) before word after ↔ ∃ c, set.contains c = true ∧ word = [c] := by
  constructor
  · intro h
    cases h with
    | chars hc => exact ⟨_, hc, rfl⟩
  · rintro ⟨c, hc, rfl⟩
    exact .chars hc

@[simp] theorem matches_look :
    Matches (.look assertion) before word after ↔
      word = [] ∧ assertion.holds ⟨before.head?, after.head?⟩ = true := by
  constructor
  · intro h
    cases h with
    | look hholds => exact ⟨rfl, hholds⟩
  · rintro ⟨rfl, hholds⟩
    exact .look hholds

theorem matches_seq :
    Matches (.seq first second) before word after ↔
      ∃ u v, word = u ++ v ∧ Matches first before u (v ++ after) ∧
        Matches second (u.reverse ++ before) v after := by
  constructor
  · intro h
    cases h with
    | seq hfirst hsecond => exact ⟨_, _, rfl, hfirst, hsecond⟩
  · rintro ⟨u, v, rfl, hfirst, hsecond⟩
    exact .seq hfirst hsecond

@[simp] theorem matches_alt :
    Matches (.alt left right) before word after ↔
      Matches left before word after ∨ Matches right before word after := by
  constructor
  · intro h
    cases h with
    | left h => exact .inl h
    | right h => exact .inr h
  · rintro (h | h)
    · exact .left h
    · exact .right h

theorem matches_seq_assoc {third : Expr} :
    Matches (.seq (.seq first second) third) before word after ↔
      Matches (.seq first (.seq second third)) before word after := by
  simp only [matches_seq]
  constructor
  · rintro ⟨_, w, rfl, ⟨u, v, rfl, hfirst, hsecond⟩, hthird⟩
    rw [← List.append_assoc] at hfirst
    rw [List.reverse_append, List.append_assoc] at hthird
    exact ⟨u, v ++ w, List.append_assoc .., hfirst, v, w, rfl, hsecond, hthird⟩
  · rintro ⟨u, _, rfl, hfirst, v, w, rfl, hsecond, hthird⟩
    rw [List.append_assoc] at hfirst
    refine ⟨u ++ v, w, (List.append_assoc ..).symm, ⟨u, v, rfl, hfirst, hsecond⟩, ?_⟩
    rw [List.reverse_append, List.append_assoc]
    exact hthird

/-- The words that `n` rounds of a body match, one after the other. -/
inductive Rounds (body : Expr) : Nat → List Char → List Char → List Char → Prop
  | done {before after : List Char} : Rounds body 0 before [] after
  | round {n : Nat} {before after u v : List Char} (first : Matches body before u (v ++ after))
      (rest : Rounds body n (u.reverse ++ before) v after) :
      Rounds body (n + 1) before (u ++ v) after

def Allows (least : Nat) (extra : Option Nat) (n : Nat) : Prop :=
  least ≤ n ∧ ∀ more, extra = some more → n ≤ least + more

theorem allows_none : Allows least none n ↔ least ≤ n :=
  ⟨And.left, fun hleast => ⟨hleast, nofun⟩⟩

theorem allows_some {more : Nat} :
    Allows least (some more) n ↔ least ≤ n ∧ n ≤ least + more :=
  and_congr_right fun _ => ⟨fun hmost => hmost more rfl, fun hmost _ h => Option.some.inj h ▸ hmost⟩

theorem rounds_zero : Rounds body 0 before word after ↔ word = [] := by
  constructor
  · intro h
    cases h
    rfl
  · rintro rfl
    exact .done

theorem rounds_succ :
    Rounds body (n + 1) before word after ↔
      ∃ u v, word = u ++ v ∧ Matches body before u (v ++ after) ∧
        Rounds body n (u.reverse ++ before) v after := by
  constructor
  · intro h
    cases h with
    | round hfirst hrest => exact ⟨_, _, rfl, hfirst, hrest⟩
  · rintro ⟨u, v, rfl, hfirst, hrest⟩
    exact .round hfirst hrest

theorem rounds_nil (h : Matches body before [] after) (n : Nat) : Rounds body n before [] after := by
  induction n with
  | zero => exact .done
  | succ n ih => exact .round (u := []) h ih

theorem rounds_of_matches_rep (h : Matches (.rep body least extra) before word after) :
    ∃ n, Allows least extra n ∧ Rounds body n before word after := by
  generalize hexpr : Expr.rep body least extra = expr at h
  induction h generalizing least extra with
  | done =>
      cases hexpr
      exact ⟨0, ⟨Nat.le_refl _, fun _ _ => Nat.zero_le _⟩, .done⟩
  | round hbody _ _ ih =>
      cases hexpr
      obtain ⟨n, ⟨hleast, hmost⟩, hrounds⟩ := ih rfl
      refine ⟨n + 1, ⟨Nat.succ_le_succ hleast, fun more hmore => ?_⟩, .round hbody hrounds⟩
      have := hmost more hmore
      omega
  | extra hbody _ _ ih =>
      cases hexpr
      obtain ⟨n, ⟨-, hmost⟩, hrounds⟩ := ih rfl
      refine ⟨n + 1, ⟨Nat.zero_le _, fun more hmore => ?_⟩, .round hbody hrounds⟩
      cases hmore
      have := hmost _ rfl
      omega
  | unbounded hbody _ _ ih =>
      cases hexpr
      obtain ⟨n, -, hrounds⟩ := ih rfl
      exact ⟨n + 1, ⟨Nat.zero_le _, nofun⟩, .round hbody hrounds⟩
  | _ => cases hexpr

theorem matches_rep_of_rounds (hallows : Allows least extra n)
    (h : Rounds body n before word after) : Matches (.rep body least extra) before word after := by
  induction h generalizing least extra with
  | done =>
      obtain rfl : least = 0 := Nat.le_zero.mp hallows.1
      exact .done
  | round hbody _ ih =>
      obtain ⟨hleast, hmost⟩ := hallows
      cases least with
      | succ least =>
          refine .round hbody (ih ⟨Nat.le_of_succ_le_succ hleast, fun more hmore => ?_⟩)
          have := hmost more hmore
          omega
      | zero => cases extra with
        | none => exact .unbounded hbody (ih ⟨Nat.zero_le _, nofun⟩)
        | some more =>
            have hmore := hmost more rfl
            cases more with
            | zero => omega
            | succ more =>
                refine .extra hbody (ih ⟨Nat.zero_le _, fun _ heq => ?_⟩)
                cases heq
                omega

theorem matches_rep :
    Matches (.rep body least extra) before word after ↔
      ∃ n, Allows least extra n ∧ Rounds body n before word after :=
  ⟨rounds_of_matches_rep, fun ⟨_, hallows, h⟩ => matches_rep_of_rounds hallows h⟩

/-- The words of a body whose meaning does not depend on its place, each the text of some part, are
joined by its repetitions. -/
theorem rounds_iff_flatMap {part : Type} {IsPart : part → Prop} {text : part → List Char}
    (hbody : ∀ before word after,
      Matches body before word after ↔ ∃ p, IsPart p ∧ text p = word) :
    Rounds body n before word after ↔
      ∃ parts : List part, parts.length = n ∧ (∀ p ∈ parts, IsPart p) ∧
        parts.flatMap text = word := by
  induction n generalizing before word with
  | zero =>
      rw [rounds_zero]
      constructor
      · rintro rfl
        exact ⟨[], rfl, nofun, rfl⟩
      · rintro ⟨parts, hlength, -, rfl⟩
        rw [List.length_eq_zero_iff.mp hlength]
        rfl
  | succ n ih =>
      rw [rounds_succ]
      simp only [hbody, ih]
      constructor
      · rintro ⟨_, _, rfl, ⟨p, hp, rfl⟩, parts, hlength, hparts, rfl⟩
        refine ⟨p :: parts, congrArg (· + 1) hlength, ?_, List.flatMap_cons⟩
        exact List.forall_mem_cons.mpr ⟨hp, hparts⟩
      · rintro ⟨parts, hlength, hparts, rfl⟩
        cases parts with
        | nil => cases hlength
        | cons p parts =>
            obtain ⟨hp, hparts⟩ := List.forall_mem_cons.mp hparts
            exact ⟨text p, parts.flatMap text, List.flatMap_cons, ⟨p, hp, rfl⟩, parts,
              Nat.succ.inj hlength, hparts, rfl⟩

theorem matches_rep_iff_flatMap {part : Type} {IsPart : part → Prop} {text : part → List Char}
    (hbody : ∀ before word after,
      Matches body before word after ↔ ∃ p, IsPart p ∧ text p = word) :
    Matches (.rep body least extra) before word after ↔
      ∃ parts : List part, Allows least extra parts.length ∧ (∀ p ∈ parts, IsPart p) ∧
        parts.flatMap text = word := by
  simp only [matches_rep, rounds_iff_flatMap hbody]
  constructor
  · rintro ⟨_, hallows, parts, rfl, hparts⟩
    exact ⟨parts, hallows, hparts⟩
  · rintro ⟨parts, hallows, hparts⟩
    exact ⟨_, hallows, parts, rfl, hparts⟩

theorem matches_rep_chars :
    Matches (.rep (.chars set) least extra) before word after ↔
      Allows least extra word.length ∧ ∀ c ∈ word, set.contains c = true := by
  have hchars : ∀ before word after, Matches (.chars set) before word after ↔
      ∃ c, set.contains c = true ∧ [c] = word := by
    intro before word after
    simp only [matches_chars, @eq_comm _ word]
  rw [matches_rep_iff_flatMap hchars]
  simp

/-- Whether two expressions match the same words at every place. -/
def SameWords (a b : Expr) : Prop :=
  ∀ before word after, Matches a before word after ↔ Matches b before word after

namespace SameWords

variable {a a' b b' c : Expr}

@[refl] theorem refl (a : Expr) : SameWords a a := fun _ _ _ => Iff.rfl

theorem symm (h : SameWords a b) : SameWords b a :=
  fun before word after => (h before word after).symm

theorem trans (h : SameWords a b) (h' : SameWords b c) : SameWords a c :=
  fun before word after => (h before word after).trans (h' before word after)

theorem seq (ha : SameWords a a') (hb : SameWords b b') :
    SameWords (.seq a b) (.seq a' b') := by
  intro before word after
  simp only [matches_seq, ha _ _ _, hb _ _ _]

theorem seq_assoc : SameWords (.seq (.seq a b) c) (.seq a (.seq b c)) :=
  fun _ _ _ => matches_seq_assoc

theorem seq_empty : SameWords (.seq a .empty) a := by
  intro before word after
  simp [matches_seq]

theorem rounds (h : SameWords a b) :
    Rounds a n before word after ↔ Rounds b n before word after := by
  induction n generalizing before word with
  | zero => rw [rounds_zero, rounds_zero]
  | succ n ih => simp only [rounds_succ, h _ _ _, ih]

theorem rep (h : SameWords a b) : SameWords (.rep a least extra) (.rep b least extra) := by
  intro before word after
  simp only [matches_rep, h.rounds]

end SameWords

end FieldRules.Pattern.Expr

namespace FieldRules.Pattern

namespace Term

mutual
/-- The words of a term; what its assertions say of their place is left out. -/
def language : Term → Language Char
  | .empty => 1
  | .chars set _ => {word | ∃ c, set.contains c = true ∧ word = [c]}
  | .look _ => 1
  | .capture body => language body
  | .repeated body least most _ =>
      {word | ∃ n, least ≤ n ∧ (∀ greatest ∈ most, n ≤ greatest) ∧ word ∈ language body ^ n}
  | .concat items => concatLanguage items
  | .alternation branches => alternationLanguage branches

def concatLanguage : List Term → Language Char
  | [] => 1
  | item :: items => language item * concatLanguage items

def alternationLanguage : List Term → Language Char
  | [] => 0
  | branch :: branches => language branch + alternationLanguage branches
end

/-- A term without assertions, with the bounds of its repetitions in order. -/
inductive Plain : Term → Prop
  | empty : Plain .empty
  | chars {set : Unicode.CharSet} {unicode : Bool} : Plain (.chars set unicode)
  | capture {body : Term} (hbody : Plain body) : Plain (.capture body)
  | repeated {body : Term} {least : Nat} {most : Option Nat} {lazily : Bool} (hbody : Plain body)
      (hbounds : ∀ greatest ∈ most, least ≤ greatest) : Plain (.repeated body least most lazily)
  | concat {items : List Term} (hitems : ∀ item ∈ items, Plain item) : Plain (.concat items)
  | alternation {branches : List Term} (hbranches : ∀ branch ∈ branches, Plain branch) :
      Plain (.alternation branches)

/-- Whether an expression matches the words of a language, wherever they stand. -/
def Denotes (expr : Expr) (language : Language Char) : Prop :=
  ∀ before word after, expr.Matches before word after ↔ word ∈ language

variable {expr : Expr} {language : Language Char}

theorem Denotes.seq {first second : Expr} {language' : Language Char} (h : Denotes first language)
    (h' : Denotes second language') : Denotes (.seq first second) (language * language') := by
  intro before word after
  rw [Expr.matches_seq, Language.mem_mul]
  constructor
  · intro hmatches
    obtain ⟨u, v, rfl, hfirst, hsecond⟩ := hmatches
    exact ⟨u, (h ..).mp hfirst, v, (h' ..).mp hsecond, rfl⟩
  · intro hmem
    obtain ⟨u, hu, v, hv, rfl⟩ := hmem
    exact ⟨u, v, rfl, (h ..).mpr hu, (h' ..).mpr hv⟩

theorem Denotes.alt {left right : Expr} {language' : Language Char} (h : Denotes left language)
    (h' : Denotes right language') : Denotes (.alt left right) (language + language') := by
  intro before word after
  rw [Expr.matches_alt, Language.mem_add, h _ _ _, h' _ _ _]

theorem Denotes.rounds_iff (h : Denotes expr language) {n : Nat} {before word after : List Char} :
    Expr.Rounds expr n before word after ↔ word ∈ language ^ n := by
  induction n generalizing before word with
  | zero => rw [Expr.rounds_zero, pow_zero, Language.mem_one]
  | succ n ih =>
      rw [Expr.rounds_succ, pow_succ', Language.mem_mul]
      constructor
      · intro hrounds
        obtain ⟨u, v, rfl, hfirst, hrest⟩ := hrounds
        exact ⟨u, (h ..).mp hfirst, v, ih.mp hrest, rfl⟩
      · intro hmem
        obtain ⟨u, hu, v, hv, rfl⟩ := hmem
        exact ⟨u, v, rfl, (h ..).mpr hu, ih.mpr hv⟩

theorem allows_sub_iff {least n : Nat} {most : Option Nat}
    (hbounds : ∀ greatest ∈ most, least ≤ greatest) :
    Expr.Allows least (most.map (· - least)) n ↔
      least ≤ n ∧ ∀ greatest ∈ most, n ≤ greatest := by
  cases most with
  | none => exact ⟨fun h => ⟨h.1, nofun⟩, fun h => ⟨h.1, nofun⟩⟩
  | some greatest =>
      have hgreatest := hbounds greatest rfl
      rw [Option.map_some, Expr.allows_some, Nat.add_sub_cancel' hgreatest]
      exact and_congr_right fun _ => ⟨fun h _ heq => Option.some.inj heq ▸ h, fun h => h _ rfl⟩

theorem denotes_concat {items : List Term}
    (h : ∀ item ∈ items, Denotes item.expr item.language) :
    Denotes (concatExpr items) (concatLanguage items) := by
  induction items with
  | nil => exact fun _ _ _ => Expr.matches_empty
  | cons item items ih =>
      obtain ⟨hitem, hitems⟩ := List.forall_mem_cons.mp h
      exact hitem.seq (ih hitems)

theorem denotes_alternation {branches : List Term}
    (h : ∀ branch ∈ branches, Denotes branch.expr branch.language) :
    Denotes (alternationExpr branches) (alternationLanguage branches) := by
  induction branches with
  | nil =>
      intro before word after
      rw [alternationExpr, Expr.matches_chars]
      constructor
      · intro hmatches
        obtain ⟨c, hc, -⟩ := hmatches
        cases hc
      · intro hmem
        exact absurd hmem (Language.notMem_zero word)
  | cons branch branches ih =>
      obtain ⟨hbranch, hbranches⟩ := List.forall_mem_cons.mp h
      exact hbranch.alt (ih hbranches)

/-- A term without assertions matches the words of its language, wherever they stand. -/
theorem Plain.denotes {term : Term} (h : term.Plain) : Denotes term.expr term.language := by
  induction h with
  | empty =>
      intro before word after
      rw [expr, Expr.matches_empty]
      rfl
  | chars =>
      intro before word after
      rw [expr, Expr.matches_chars]
      rfl
  | capture _ ih => exact ih
  | repeated _ hbounds ih =>
      intro before word after
      rw [expr, Expr.matches_rep]
      simp only [allows_sub_iff hbounds, ih.rounds_iff, and_assoc]
      rfl
  | concat _ ih => exact denotes_concat ih
  | alternation _ ih => exact denotes_alternation ih

end Term

end FieldRules.Pattern
