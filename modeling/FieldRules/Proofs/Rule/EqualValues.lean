import FieldRules.Pattern.Program
import FieldRules.Proofs.CompiledField
import FieldRules.Proofs.Value.Equality

namespace FieldRules

/-! What rules make of equal values. A binary64 number can equal two integers that differ, so
equality is transitive, and a rule agrees on equal values, only where no number is blurred in this
way. -/

namespace Value

/-- At some place the first value has a binary64 number that blurs integers of the two others. -/
inductive Blurs : Value → Value → Value → Prop
  | num {x y z : Number} (h : y.Blurs x z) : Blurs (.num y) (.num x) (.num z)
  | item {middle items others : List Value} {a b c : Value} (i : Nat)
      (hb : middle[i]? = some b) (ha : items[i]? = some a) (hc : others[i]? = some c)
      (h : Blurs b a c) : Blurs (.arr middle) (.arr items) (.arr others)
  | member {middle members others : List (String × Value)} {a b c : Value} (name : String)
      (hb : Entries.find? name middle = some b) (ha : Entries.find? name members = some a)
      (hc : Entries.find? name others = some c) (h : Blurs b a c) :
      Blurs (.obj middle) (.obj members) (.obj others)

variable {a b c : Value}

@[simp] theorem blurs_num {x y z : Number} : Blurs (num y) (num x) (num z) ↔ y.Blurs x z := by
  constructor
  · intro h
    cases h with
    | num h => exact h
  · exact .num

theorem Blurs.not_alike (h : Blurs b a c) : ¬ Alike a c := by
  induction h with
  | num h =>
      intro halike
      cases halike with
      | num heq => exact h.compare_ne_eq heq
  | item i _ ha hc _ ih =>
      intro halike
      cases halike with
      | arr _ hitem => exact ih (hitem i _ _ ha hc)
  | member name _ ha hc _ ih =>
      intro halike
      cases halike with
      | obj _ hmember => exact ih (hmember name _ _ ha hc)

theorem Alike.trans (hab : Alike a b) (hbc : Alike b c) (hsharp : ¬ Blurs b a c) : Alike a c := by
  induction hab generalizing c with
  | null => exact hbc
  | bool => exact hbc
  | str => exact hbc
  | num hxy =>
      cases hbc with
      | num hyz =>
          apply Alike.num
          rw [Number.compare_eq_eq_trans_iff hxy hyz]
          exact fun hblurs => hsharp (.num hblurs)
  | @arr items middle hlength _ ih =>
      cases hbc with
      | @arr _ others hlength' halike =>
          refine .arr (hlength.trans hlength') fun i a c ha hc => ?_
          -- The array in the middle is long enough to have an item here, too.
          have hmiddle : i < middle.length :=
            hlength ▸ (List.getElem?_eq_some_iff.mp ha).1
          obtain ⟨b, hb⟩ : ∃ b, middle[i]? = some b := ⟨_, List.getElem?_eq_getElem hmiddle⟩
          exact ih i a b ha hb (halike i b c hb hc) fun hblurs => hsharp (.item i hb ha hc hblurs)
  | @obj members middle hmissing _ ih =>
      cases hbc with
      | @obj _ others hmissing' halike =>
          refine .obj (fun name => (hmissing name).trans (hmissing' name)) fun name a c ha hc => ?_
          cases hb : Entries.find? name middle with
          | none =>
              rw [(hmissing name).mpr hb] at ha
              cases ha
          | some b =>
              exact ih name a b ha hb (halike name b c hb hc) fun hblurs =>
                hsharp (.member name hb ha hc hblurs)

/-- Two values that equal a third one are equal, unless it blurs integers of theirs. -/
theorem equal_trans_iff (ha : a.NamesDistinct) (hb : b.NamesDistinct) (hc : c.NamesDistinct)
    (hab : a.equal b = true) (hbc : b.equal c = true) : a.equal c = true ↔ ¬ Blurs b a c := by
  rw [equal_iff_alike ha hb] at hab
  rw [equal_iff_alike hb hc] at hbc
  rw [equal_iff_alike ha hc]
  exact ⟨fun h hblurs => hblurs.not_alike h, hab.trans hbc⟩

end Value

namespace Test

open Value

variable {a b : Value}

theorem length?_congr (h : Alike a b) : length? a = length? b := by
  cases h with
  | arr hlength => exact congrArg some hlength
  | _ => rfl

theorem search_congr (h : Alike a b) (p : Pattern) : search p a = search p b := by
  cases h <;> rfl

theorem compare?_congr {bound : Number} (h : Alike a b) (hsharp : ¬ Blurs b a (.num bound))
    (hsharp' : ¬ Blurs a b (.num bound)) : compare? a bound = compare? b bound := by
  cases h with
  | num heq =>
      apply congrArg some
      rw [blurs_num] at hsharp hsharp'
      exact (Number.compare_left_congr_iff heq).mpr ⟨hsharp, hsharp'⟩
  | _ => rfl

theorem passes_min_max_congr_iff {x y bound : Number} :
    (Test.min bound).passes (.num x) = (Test.min bound).passes (.num y) ∧
        (Test.max bound).passes (.num x) = (Test.max bound).passes (.num y) ↔
      x.compare bound = y.compare bound := by
  simp only [passes, compare?, Option.any_some]
  cases x.compare bound <;> cases y.compare bound <;> decide

end Test

def RuleKind.comparesNumbers : RuleKind → Bool
  | .min | .max | .equalTo => true
  | .email | .minLength | .maxLength | .pattern => false

namespace Rule

open Value

section

variable [Pattern.Engine]

theorem passes_congr {rule : Rule} {checker : Checker} {a b : Value}
    (hcompile : rule.compile = .ok checker) (ha : a.NamesDistinct) (hb : b.NamesDistinct)
    (hoperand : ∀ operand, rule.operand = some operand → operand.NamesDistinct)
    (hab : a.equal b = true)
    (hsharp : rule.kind.comparesNumbers = true → ∀ operand, rule.operand = some operand →
      ¬ Blurs b a operand ∧ ¬ Blurs a b operand) :
    checker.passes a = checker.passes b := by
  have halike := (equal_iff_alike ha hb).mp hab
  obtain ⟨kind, operand?, message⟩ := rule
  obtain ⟨test, text⟩ := checker
  obtain ⟨htest, -⟩ := compile_eq_ok_iff.mp hcompile
  rw [Checker.passes, Checker.passes]
  cases htest with
  | email => exact Test.search_congr halike _
  | pattern => exact Test.search_congr halike _
  | minLength => rw [Test.passes, Test.passes, Test.length?_congr halike]
  | maxLength => rw [Test.passes, Test.passes, Test.length?_congr halike]
  | min =>
      have h := hsharp rfl _ rfl
      rw [Test.passes, Test.passes, Test.compare?_congr halike h.1 h.2]
  | max =>
      have h := hsharp rfl _ rfl
      rw [Test.passes, Test.passes, Test.compare?_congr halike h.1 h.2]
  | @equalTo expected =>
      have hexpected := hoperand expected rfl
      have h := hsharp rfl _ rfl
      rw [Test.passes, Test.passes, Bool.eq_iff_iff]
      constructor
      · intro hae
        exact (equal_trans_iff hb ha hexpected ((equal_comm ha hb).symm.trans hab) hae).mpr h.2
      · intro hbe
        exact (equal_trans_iff ha hb hexpected hab hbe).mpr h.1

/-- Equal values pass the same rules, but for rules that compare an integer with a number that is
blurred with another integer. Equality is transitive, and equal numbers keep the same bounds,
exactly where nothing is blurred. -/
theorem equal_values_pass_alike (a b : Value) (ha : a.NamesDistinct) (hb : b.NamesDistinct)
    (hab : a.equal b = true) :
    (∀ (rule : Rule) (checker : Checker), rule.compile = .ok checker →
      (∀ operand, rule.operand = some operand → operand.NamesDistinct) →
      (rule.kind.comparesNumbers = true → ∀ operand, rule.operand = some operand →
        ¬ Blurs b a operand ∧ ¬ Blurs a b operand) →
      checker.passes a = checker.passes b) ∧
    (∀ c, c.NamesDistinct → b.equal c = true → (a.equal c = true ↔ ¬ Blurs b a c)) ∧
    (∀ x y bound, a = .num x → b = .num y →
      ((Test.min bound).passes a = (Test.min bound).passes b ∧
          (Test.max bound).passes a = (Test.max bound).passes b ↔
        ¬ y.Blurs x bound ∧ ¬ x.Blurs y bound)) := by
  refine ⟨fun rule checker hcompile hoperand hsharp =>
    passes_congr hcompile ha hb hoperand hab hsharp,
    fun c hc hbc => equal_trans_iff ha hb hc hab hbc, ?_⟩
  rintro x y bound rfl rfl
  rw [Test.passes_min_max_congr_iff, Number.compare_left_congr_iff (beq_iff_eq.mp hab)]

end

theorem equal_values_pass_alike_large :
    let a := Value.num (.int 9007199254740992 (by decide) (by decide))
    let b := Value.num (.float (.ofNat 9007199254740992 (by decide)))
    let bound := Value.num (.int 9007199254740994 (by decide) (by decide))
    a.equal b = true ∧
      ∀ checker, ((ofKind .min).withOperand bound).compile = .ok checker →
        checker.passes a = checker.passes b := by
  intro a b bound
  have hequal : a.equal b = true := by decide +kernel
  refine ⟨hequal, fun checker hcompile => ?_⟩
  have hround : roundedUnits 9007199254740992 ≠ roundedUnits 9007199254740994 := by
    decide +kernel
  apply (equal_values_pass_alike a b trivial trivial hequal).1 _ checker hcompile
  · rintro operand ⟨⟩
    trivial
  · rintro - operand ⟨⟩
    constructor
    · intro hblurs
      cases blurs_num.mp hblurs with
      | intro _ heq => exact hround heq
    · intro hblurs
      cases blurs_num.mp hblurs

/-- The first integer that is no binary64 number equals its neighbour once that is written as a
binary64 number, but not as an integer, and one bound tells the two writings apart. -/
theorem equal_values_pass_differently :
    let integer := Value.num (.int 9007199254740993 (by decide) (by decide))
    let neighbour := Value.num (.int 9007199254740992 (by decide) (by decide))
    let rounded := Value.num (.float (.ofNat 9007199254740992 (by decide)))
    integer.equal rounded = true ∧ rounded.equal neighbour = true ∧
      integer.equal neighbour = false ∧
      ∃ checker, ((ofKind .max).withOperand neighbour).compile = .ok checker ∧
        checker.passes integer = false ∧ checker.passes rounded = true := by
  intro integer neighbour rounded
  have hequal : integer.equal rounded = true := by decide +kernel
  have hequal' : rounded.equal neighbour = true := by decide +kernel
  refine ⟨hequal, hequal', rfl, _, rfl, rfl, ?_⟩
  decide +kernel

end Rule

end FieldRules
