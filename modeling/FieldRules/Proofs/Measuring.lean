import FieldRules.Proofs.Declaration
import FieldRules.Proofs.FirstFailure

namespace FieldRules

inductive Value.HasLength : Value → Nat → Prop
  | str (text : String) : HasLength (.str text) text.toList.length
  | arr (items : List Value) : HasLength (.arr items) items.length

namespace Kind

variable {kind : Kind} {value : Value}

theorem exists_str_of_admits (h : string.admits value = true) : ∃ text, value = .str text := by
  cases value with
  | str text => exact ⟨text, rfl⟩
  | _ => cases h

theorem exists_arr_of_admits (h : array.admits value = true) : ∃ items, value = .arr items := by
  cases value with
  | arr items => exact ⟨items, rfl⟩
  | _ => cases h

theorem exists_num_of_admits (hnumeric : kind.isNumeric = true) (h : kind.admits value = true) :
    ∃ v, value = .num v := by
  cases value with
  | num v => exact ⟨v, rfl⟩
  | _ =>
      cases kind with
      | number | integer => cases h
      | _ => cases hnumeric

theorem exists_hasLength_of_admits (haccepts : RuleKind.accepts .minLength kind = true)
    (h : kind.admits value = true) : ∃ length, value.HasLength length := by
  have hkind : kind = .string ∨ kind = .array := by simpa [RuleKind.accepts] using haccepts
  rcases hkind with rfl | rfl
  · obtain ⟨text, rfl⟩ := exists_str_of_admits h
    exact ⟨_, .str text⟩
  · obtain ⟨items, rfl⟩ := exists_arr_of_admits h
    exact ⟨_, .arr items⟩

end Kind

namespace Test

variable {value : Value} {length : Nat} {test : Test} {kind : Kind}

/-- The bounds of lengths reject a value of some length exactly when that is out of bounds. -/
structure BoundsLength (value : Value) (length : Nat) : Prop where
  measured : value.HasLength length
  rejects_min : ∀ n, (minLength n).passes value = false ↔ length < n
  rejects_max : ∀ n, (maxLength n).passes value = false ↔ n < length
  complement : ∀ n, (minLength (n + 1)).passes value = false ↔ (maxLength n).passes value = true
  between : ∀ n m, (minLength n).passes value = true ∧ (maxLength m).passes value = true ↔
    n ≤ length ∧ length ≤ m

/-- The bounds of numbers reject a value exactly when it comes out below or above them. -/
structure BoundsNumber (value : Value) : Prop where
  ordered : ∀ b, ∃ order, compare? value b = some order
  rejects_min : ∀ b, (min b).passes value = false ↔ compare? value b = some .lt
  rejects_max : ∀ b, (max b).passes value = false ↔ compare? value b = some .gt

/-- A test can measure a value. -/
inductive Measures : Test → Value → Prop
  | minLength {n length : Nat} {value : Value} (bounds : BoundsLength value length) :
      Measures (.minLength n) value
  | maxLength {n length : Nat} {value : Value} (bounds : BoundsLength value length) :
      Measures (.maxLength n) value
  | min {b : Number} {value : Value} (bounds : BoundsNumber value) : Measures (.min b) value
  | max {b : Number} {value : Value} (bounds : BoundsNumber value) : Measures (.max b) value
  | pattern {p : Pattern} {text : String} : Measures (.pattern p) (.str text)
  | email {text : String} : Measures .email (.str text)
  | equalTo {expected value : Value} : Measures (.equalTo expected) value

theorem length?_of_hasLength (h : value.HasLength length) : length? value = some length := by
  cases h with
  | str text => rw [length?, String.length_toList]
  | arr items => rfl

theorem passes_minLength (h : value.HasLength length) (n : Nat) :
    (minLength n).passes value = decide (n ≤ length) := by
  rw [passes, length?_of_hasLength h, Option.any_some]

theorem passes_maxLength (h : value.HasLength length) (n : Nat) :
    (maxLength n).passes value = decide (length ≤ n) := by
  rw [passes, length?_of_hasLength h, Option.any_some]

theorem boundsLength (h : value.HasLength length) : BoundsLength value length where
  measured := h
  rejects_min n := by rw [passes_minLength h, decide_eq_false_iff_not, Nat.not_le]
  rejects_max n := by rw [passes_maxLength h, decide_eq_false_iff_not, Nat.not_le]
  complement n := by
    rw [passes_minLength h, passes_maxLength h, decide_eq_false_iff_not, decide_eq_true_iff, Nat.not_le]
    exact Nat.lt_succ_iff
  between n m := by rw [passes_minLength h, passes_maxLength h, decide_eq_true_iff, decide_eq_true_iff]

theorem boundsNumber (v : Number) : BoundsNumber (.num v) where
  ordered b := ⟨v.compare b, rfl⟩
  rejects_min b := by simp [passes, compare?]
  rejects_max b := by simp [passes, compare?]

theorem measures_of_accepts (haccepts : test.kind.accepts kind = true)
    (hadmits : kind.admits value = true) : test.Measures value := by
  cases test with
  | minLength n =>
      obtain ⟨length, hlength⟩ := Kind.exists_hasLength_of_admits haccepts hadmits
      exact .minLength (boundsLength hlength)
  | maxLength n =>
      obtain ⟨length, hlength⟩ := Kind.exists_hasLength_of_admits haccepts hadmits
      exact .maxLength (boundsLength hlength)
  | min b =>
      obtain ⟨v, rfl⟩ := Kind.exists_num_of_admits haccepts hadmits
      exact .min (boundsNumber v)
  | max b =>
      obtain ⟨v, rfl⟩ := Kind.exists_num_of_admits haccepts hadmits
      exact .max (boundsNumber v)
  | pattern p =>
      obtain rfl : kind = .string := eq_of_beq haccepts
      obtain ⟨text, rfl⟩ := Kind.exists_str_of_admits hadmits
      exact .pattern
  | email =>
      obtain rfl : kind = .string := eq_of_beq haccepts
      obtain ⟨text, rfl⟩ := Kind.exists_str_of_admits hadmits
      exact .email
  | equalTo expected => exact .equalTo

end Test

namespace CompiledField

variable {field : CompiledField} {kind : Kind} {value : Value}

theorem evaluate_of_not_admits (hkind : field.kind = some kind) (h : kind.admits value = false)
    (name : String) : field.evaluate name true value = some (field.typeError name value) := by
  simp [evaluate, conforms, hkind, h]

variable [Pattern.Engine]

theorem exists_rule_of_mem_checkers {rules : List Rule} {checkers : List Checker} {checker : Checker}
    (h : List.Forall₂ Checks rules checkers) (hmem : checker ∈ checkers) :
    ∃ rule ∈ rules, Checks rule checker := by
  induction h with
  | nil => cases hmem
  | @cons rule first rules checkers hfirst _ ih =>
      rcases List.mem_cons.mp hmem with rfl | hrest
      · exact ⟨rule, List.mem_cons_self, hfirst⟩
      · obtain ⟨other, hother, hchecks⟩ := ih hrest
        exact ⟨other, List.mem_cons_of_mem rule hother, hchecks⟩

theorem Renders.accepts_checker {spec : FieldSpec} {required : Bool} {checker : Checker}
    (h : field.Renders spec required) (hkind : field.kind = some kind)
    (hchecker : checker ∈ field.checkers) : checker.kind.accepts kind = true := by
  obtain ⟨rule, hrule, hchecks⟩ := exists_rule_of_mem_checkers h.checkers hchecker
  rw [hchecks.kind_eq]
  exact h.accepts kind (h.kind_eq.symm.trans hkind) rule hrule

end CompiledField

namespace Validator

variable {validator : Validator} {name : String} {field : CompiledField} {kind : Kind}

/-- Of a compiled field with a declared kind, every checker can measure every value of that kind,
and where types are enforced no other value comes to the checkers. -/
theorem conforming_values_are_measured [Pattern.Engine] (hreachable : Reachable validator)
    (hfield : validator.compiled.find? name = some field) (hkind : field.kind = some kind)
    (value : Value) :
    (kind.admits value = true → ∀ checker ∈ field.checkers, checker.test.Measures value) ∧
    (kind.admits value = false →
      field.evaluate name true value = some (field.typeError name value)) := by
  refine ⟨?_, fun h => CompiledField.evaluate_of_not_admits hkind h name⟩
  intro hadmits checker hchecker
  obtain ⟨spec, -, hcurrent⟩ := hreachable.coherent.compiled_current name field hfield
  have hrenders := CompiledField.ofSpec_eq_ok_iff.mp hcurrent
  exact Test.measures_of_accepts (hrenders.accepts_checker hkind hchecker) hadmits

def tagged : Validator :=
  (ofRoot .object).after
    [.declareField "tags" true
      [.minLength 1, .message "no tag", .asKind .array, .maxLength 2, .message "many tags"] true]

def tags : CompiledField :=
  ⟨some .array, true, none, [⟨.minLength 1, "no tag"⟩, ⟨.maxLength 2, "many tags"⟩]⟩

theorem conforming_values_are_measured_tags :
    let value := Value.arr [.null, .str "a", .bool true]
    Reachable tagged ∧ tagged.compiled.find? "tags" = some tags ∧ tags.kind = some .array ∧
      Kind.array.admits value = true ∧
      (∀ checker ∈ tags.checkers, checker.test.Measures value) ∧
      tags.checkers.map (·.passes value) = [true, false] := by
  intro value
  have hreachable : Reachable tagged := (Reachable.ofRoot .object).after _
  have hfield : tagged.compiled.find? "tags" = some tags := rfl
  have hmeasured := conforming_values_are_measured hreachable hfield rfl value
  exact ⟨hreachable, hfield, rfl, rfl, hmeasured.1 rfl, rfl⟩

end Validator

end FieldRules
