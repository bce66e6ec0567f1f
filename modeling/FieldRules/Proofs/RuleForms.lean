import FieldRules.Proofs.Calls
import FieldRules.Proofs.Rule.Text

namespace FieldRules

/-- A value that can be read back from its JSON text. -/
structure Value.Writable (value : Value) : Prop where
  floatFree : value.FloatFree
  namesDistinct : value.NamesDistinct
  depth_le : value.depth ≤ 127

theorem Value.text_ofUInt64 (n : UInt64) : (Value.num (.ofUInt64 n)).text = toString n := by
  have hnatural : ¬ (n.toNat : Int) < 0 := by omega
  rw [text, write, Number.ofUInt64, Number.write, if_neg hnatural, Int.natAbs_natCast]
  rfl

theorem Value.writable_ofUInt64 (n : UInt64) : (Value.num (.ofUInt64 n)).Writable :=
  ⟨.int _ _ _, trivial, Nat.zero_le _⟩

namespace Rule

variable {operand : Value} {head : String}

inductive Spells (name : String) : String → Prop
  | blanks {left right : String} (left_blank : ∀ c ∈ left.toList, Unicode.isBlank c = true)
      (right_blank : ∀ c ∈ right.toList, Unicode.isBlank c = true) :
      Spells name (left ++ name ++ right)

theorem ofText?_of_spells (kind : RuleKind) (h : Spells kind.name head) :
    ofText? head = .ok (ofKind kind) := by
  obtain ⟨hleft, hright⟩ := h
  rw [ofText?_head (colon_not_mem_head kind hleft hright), headKind_eq_ok (trims_name kind hleft hright)]
  rfl

theorem ofText?_operand_of_spells (kind : RuleKind) (h : Spells kind.name head) (text : String) :
    ofText? (head ++ ":" ++ text) = .ok ((ofKind kind).withOperand (readOperand kind text)) := by
  obtain ⟨hleft, hright⟩ := h
  rw [ofText?_operand (colon_not_mem_head kind hleft hright),
    headKind_eq_ok (trims_name kind hleft hright)]
  rfl

theorem ofText?_value_of_spells (kind : RuleKind) (h : Spells kind.name head)
    (hkind : kind ≠ .pattern) (hoperand : operand.Writable) :
    ofText? (head ++ ":" ++ operand.text) = .ok ((ofKind kind).withOperand operand) := by
  rw [ofText?_operand_of_spells kind h, readOperand_eq hkind,
    Value.read?_text hoperand.floatFree hoperand.namesDistinct hoperand.depth_le, Option.getD_some]

end Rule

namespace Call

/-- A call that attaches a rule, the text of the rule, and the rule as it is. -/
inductive Forms : Call → String → Rule → Prop
  | email {head : String} (spelled : Rule.Spells "email" head) :
      Forms .email head ⟨.email, none, .default⟩
  | minLength {head : String} (spelled : Rule.Spells "minLength" head) (n : UInt64) :
      Forms (.minLength n) (head ++ ":" ++ toString n)
        ⟨.minLength, some (.num (.ofUInt64 n)), .default⟩
  | maxLength {head : String} (spelled : Rule.Spells "maxLength" head) (n : UInt64) :
      Forms (.maxLength n) (head ++ ":" ++ toString n)
        ⟨.maxLength, some (.num (.ofUInt64 n)), .default⟩
  | pattern {head : String} (spelled : Rule.Spells "pattern" head) (text : String) :
      Forms (.pattern text) (head ++ ":" ++ text) ⟨.pattern, some (.str text), .default⟩
  | min {head : String} {bound : Value} (spelled : Rule.Spells "min" head)
      (writable : bound.Writable) :
      Forms (.min bound) (head ++ ":" ++ bound.text) ⟨.min, some bound, .default⟩
  | max {head : String} {bound : Value} (spelled : Rule.Spells "max" head)
      (writable : bound.Writable) :
      Forms (.max bound) (head ++ ":" ++ bound.text) ⟨.max, some bound, .default⟩
  | equalTo {head : String} {expected : Value} (spelled : Rule.Spells "equalTo" head)
      (writable : expected.Writable) :
      Forms (.equalTo expected) (head ++ ":" ++ expected.text)
        ⟨.equalTo, some expected, .default⟩

variable {typed first second : Call} {text : String} {attached : Rule}

theorem Forms.rule?_eq (h : Forms typed text attached) : typed.rule? = some attached := by
  cases h <;> rfl

theorem Forms.ofText?_eq (h : Forms typed text attached) : Rule.ofText? text = .ok attached := by
  cases h with
  | email spelled => exact Rule.ofText?_of_spells .email spelled
  | minLength spelled n =>
      rw [← Value.text_ofUInt64]
      exact Rule.ofText?_value_of_spells .minLength spelled nofun
        (Value.writable_ofUInt64 n)
  | maxLength spelled n =>
      rw [← Value.text_ofUInt64]
      exact Rule.ofText?_value_of_spells .maxLength spelled nofun
        (Value.writable_ofUInt64 n)
  | pattern spelled text => exact Rule.ofText?_operand_of_spells .pattern spelled text
  | min spelled writable =>
      exact Rule.ofText?_value_of_spells .min spelled nofun writable
  | max spelled writable =>
      exact Rule.ofText?_value_of_spells .max spelled nofun writable
  | equalTo spelled writable =>
      exact Rule.ofText?_value_of_spells .equalTo spelled nofun writable

/-- Calls that attach the same rule in any of its forms, and calls that are the same. -/
inductive Alike : Call → Call → Prop
  | same (call : Call) : Alike call call
  | forms {typed first second : Call} {text : String} {attached : Rule}
      (forms : Forms typed text attached)
      (first_mem : first ∈ [typed, .ruleText text, .rule attached])
      (second_mem : second ∈ [typed, .ruleText text, .rule attached]) : Alike first second

theorem Forms.rule?_of_mem (h : Forms typed text attached)
    (hmem : first ∈ [typed, .ruleText text, .rule attached]) : first.rule? = some attached := by
  simp only [List.mem_cons, List.not_mem_nil, or_false] at hmem
  rcases hmem with rfl | rfl | rfl
  · exact h.rule?_eq
  · rw [rule?, h.ofText?_eq]
    rfl
  · rfl

end Call

namespace Draft

variable {draft : Draft} {first second : Call} {calls others : List Call}

theorem call_congr (h : first.Alike second) : draft.call first = draft.call second := by
  cases h with
  | same => rfl
  | forms forms first_mem second_mem =>
      rw [call_of_rule? (forms.rule?_of_mem first_mem), call_of_rule? (forms.rule?_of_mem second_mem)]

theorem callAll_congr (h : List.Forall₂ Call.Alike calls others) (made : Nat) :
    draft.callAll made calls = draft.callAll made others := by
  induction h generalizing draft made with
  | nil => rfl
  | cons hfirst _ ih =>
      rw [callAll, callAll, call_congr hfirst]
      split
      · exact ih (made + 1)
      · rfl

end Draft

/-- Operations that differ at most in the forms in which declarations attach their rules. -/
inductive Operation.Alike : Operation → Operation → Prop
  | same (operation : Operation) : Alike operation operation
  | declareField {name : String} {required : Bool} {calls others : List Call} {compile : Bool}
      (alike : List.Forall₂ Call.Alike calls others) :
      Alike (.declareField name required calls compile) (.declareField name required others compile)

namespace Validator

variable {validator : Validator} {first second : Operation} {operations others : List Operation}

section

variable [Pattern.Engine]

theorem perform_congr (h : first.Alike second) :
    validator.perform first = validator.perform second := by
  cases h with
  | same => rfl
  | declareField alike =>
      simp only [perform, Validator.declareField, Draft.callAll_congr alike, alike.length_eq]

theorem performAll_congr (h : List.Forall₂ Operation.Alike operations others) :
    validator.performAll operations = validator.performAll others := by
  induction h generalizing validator with
  | nil => rfl
  | cons hfirst _ ih => simp only [performAll, perform_congr hfirst, ih]

/-- The forms of a rule do the same to every draft, and so they can replace one another in every
session. Each call that attaches a rule does what attaching the rule as it is does, whatever its
operand. -/
theorem rule_forms_agree :
    (∀ typed text rule, Call.Forms typed text rule → ∀ draft : Draft,
      draft.call typed = draft.call (.rule rule) ∧
        draft.call (.ruleText text) = draft.call (.rule rule)) ∧
    (∀ call rule, Call.rule? call = some rule → ∀ draft : Draft,
      draft.call call = draft.call (.rule rule)) ∧
    ∀ (validator : Validator) operations others,
      List.Forall₂ Operation.Alike operations others →
        validator.performAll operations = validator.performAll others := by
  refine ⟨?_, ?_, fun _ _ _ => performAll_congr⟩
  · intro typed text rule hforms draft
    have htyped : Call.Alike typed (.rule rule) := .forms hforms (by simp) (by simp)
    have htext : Call.Alike (.ruleText text) (.rule rule) := .forms hforms (by simp) (by simp)
    exact ⟨Draft.call_congr htyped, Draft.call_congr htext⟩
  · intro call rule hrule draft
    exact Draft.call_of_rule? hrule

end

theorem rule_forms_agree_age :
    let bound := Value.num (.ofUInt64 18)
    let text := "\t" ++ "min" ++ "\u2003" ++ ":" ++ bound.text
    let typed : Operation := .declareField "age" true [.asKind .integer, .min bound] true
    let written : Operation := .declareField "age" true [.asKind .integer, .ruleText text] true
    Call.Forms (.min bound) text ⟨.min, some bound, .default⟩ ∧
      (Draft.start "age").call (.ruleText text) =
        (Draft.start "age").call (.rule ⟨.min, some bound, .default⟩) ∧
      List.Forall₂ Operation.Alike [typed] [written] ∧
      (ofRoot .object).performAll [typed] = (ofRoot .object).performAll [written] := by
  intro bound text typed written
  obtain ⟨hforms, -, hsessions⟩ := rule_forms_agree
  have hage : Call.Forms (.min bound) text ⟨.min, some bound, .default⟩ :=
    .min (.blanks (List.forall_mem_singleton.mpr rfl) (List.forall_mem_singleton.mpr rfl))
      (Value.writable_ofUInt64 18)
  have halike : List.Forall₂ Operation.Alike [typed] [written] :=
    .cons (.declareField (.cons (.same _) (.cons (.forms hage (by simp) (by simp)) .nil))) .nil
  exact ⟨hage, (hforms _ _ _ hage (Draft.start "age")).2, halike, hsessions _ _ _ halike⟩

end Validator

end FieldRules
