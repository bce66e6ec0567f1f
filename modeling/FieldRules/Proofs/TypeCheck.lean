import FieldRules.Proofs.Calls
import FieldRules.Proofs.Compilation

namespace FieldRules

/-! Rules are checked against the declared kind twice: each when it is attached, and all of them
when the field is compiled. Both checks find the same conflict, and the second one does not depend
on the place of the call that declares the kind. -/

/-- The calls attach the rules one after the other. -/
def Attach (calls : List Call) (rules : List Rule) : Prop :=
  List.Forall₂ (fun call rule => Call.rule? call = some rule) calls rules

/-- Some attached rule does not go with the kind that is declared in the end. -/
def Conflict (calls : List Call) : Prop :=
  ∃ kind, declaredKind? calls = some kind ∧
    ∃ rule ∈ attachedRules calls, rule.kind.accepts kind = false

namespace Draft

variable {draft next : Draft} {calls before middle after : List Call} {rules : List Rule}
  {kind : Kind} {name : String} {made count : Nat} {error : UsageError}

theorem callAll_attach_eq_error_iff (h : Attach calls rules) (hkind : draft.spec.kind = some kind) :
    draft.callAll made calls = .error (error, count) ↔
      ∃ before rule, kind.BarsFirst (rules.map Rule.kind) before rule ∧
        error = .typeConflict draft.name rule kind ∧ count = made + before.length := by
  induction h generalizing draft made with
  | nil =>
      constructor
      · intro h
        cases h
      · intro h
        obtain ⟨before, rule, ⟨⟨after, hsplit⟩, -⟩, -⟩ := h
        simp at hsplit
  | @cons call rule calls rules hcall _ ih =>
      rw [callAll, call_of_rule? hcall, List.map_cons]
      cases haccepts : rule.kind.accepts kind with
      | true =>
          have hcarried : ∀ other, draft.spec.kind = some other → rule.kind.accepts other = true := by
            intro other hother
            cases hkind.symm.trans hother
            exact haccepts
          have hnext : (draft.carrying rule).spec.kind = some kind := by simp [carrying, hkind]
          rw [attach_of_carried hcarried]
          simp only [ih hnext, Kind.BarsFirst.cons_of_accepts haccepts]
          constructor
          · intro h
            obtain ⟨before, barred, hbars, rfl, rfl⟩ := h
            refine ⟨rule.kind :: before, barred, ⟨before, rfl, hbars⟩, rfl, ?_⟩
            rw [List.length_cons]
            omega
          · intro h
            obtain ⟨_, barred, ⟨before, rfl, hbars⟩, rfl, rfl⟩ := h
            refine ⟨before, barred, hbars, rfl, ?_⟩
            rw [List.length_cons]
            omega
      | false =>
          rw [attach_of_barred hkind haccepts]
          simp only [Kind.BarsFirst.cons_of_not_accepts haccepts]
          constructor
          · intro h
            cases h
            exact ⟨[], rule.kind, ⟨rfl, rfl⟩, rfl, rfl⟩
          · intro h
            obtain ⟨before, barred, ⟨rfl, rfl⟩, rfl, rfl⟩ := h
            rfl

theorem callAll_asKind_attach_eq_error_iff (h : Attach calls rules) :
    (start name).callAll 0 (.asKind kind :: calls) = .error (error, count) ↔
      ∃ before rule, kind.BarsFirst (rules.map Rule.kind) before rule ∧
        error = .typeConflict name rule kind ∧ count = before.length + 1 := by
  have hattach : ((start name).setKind kind).callAll 1 calls = .error (error, count) ↔ _ :=
    callAll_attach_eq_error_iff h rfl
  simp only [Nat.add_comm 1] at hattach
  exact hattach

/-- The check of each rule as it is attached finds what the check of all rules finds. -/
theorem exists_callAll_eq_error_iff_checkRuleTypes (h : Attach calls rules)
    (typeMessage : Option String) :
    (∃ count, (start name).callAll 0 (.asKind kind :: calls) = .error (error, count)) ↔
      FieldSpec.checkRuleTypes ⟨some kind, rules, typeMessage⟩ name = .error error := by
  rw [FieldSpec.checkRuleTypes_eq_error_iff]
  simp only [callAll_asKind_attach_eq_error_iff h]
  constructor
  · intro hfails
    obtain ⟨count, before, rule, hbars, herror, -⟩ := hfails
    exact ⟨kind, before, rule, rfl, hbars, herror⟩
  · intro hfails
    obtain ⟨declared, before, rule, hdeclared, hbars, herror⟩ := hfails
    cases hdeclared
    exact ⟨before.length + 1, before, rule, hbars, herror, rfl⟩

theorem callAll_marker_earlier
    (h : draft.callAll made (before ++ (middle ++ .asKind kind :: after)) = .ok next)
    (hkinds : ∀ call ∈ middle, call.kind? = none)
    (hcarried : ∀ call ∈ middle, ∀ rule, call.rule? = some rule → rule.kind.accepts kind = true) :
    draft.callAll made (before ++ .asKind kind :: (middle ++ after)) = .ok next := by
  obtain ⟨start, hbefore, h⟩ := callAll_append_eq_ok_iff.mp h
  obtain ⟨stop, hmiddle, h⟩ := callAll_append_eq_ok_iff.mp h
  refine callAll_append_eq_ok_iff.mpr ⟨start, hbefore, ?_⟩
  change (start.setKind kind).callAll (made + before.length + 1) (middle ++ after) = .ok next
  refine callAll_append_eq_ok_iff.mpr
    ⟨stop.setKind kind, callAll_setKind hmiddle hkinds hcarried (made + before.length + 1), ?_⟩
  rw [Nat.add_right_comm]
  exact h

theorem spec_of_callAll_start (h : (start name).callAll made calls = .ok draft) :
    draft.name = name ∧ draft.spec.kind = declaredKind? calls ∧
      draft.spec.rules.map Rule.kind = (attachedRules calls).map Rule.kind :=
  ⟨name_of_callAll h, kind_of_callAll h, ruleKinds_of_callAll h⟩

end Draft

section Marker

variable {before middle after : List Call} {kind : Kind}

theorem declaredKind?_marker_later (h : ∀ call ∈ middle, call.kind? = none) :
    declaredKind? (before ++ (middle ++ .asKind kind :: after)) =
      declaredKind? (before ++ .asKind kind :: (middle ++ after)) := by
  have hmiddle : middle.filterMap Call.kind? = [] := List.filterMap_eq_nil_iff.mpr h
  have hmarker : Call.rule? (.asKind kind) = none := rfl
  simp [declaredKind?, attachedRules, hmiddle, List.filterMap_cons, hmarker]

theorem declaredKind?_of_last_marker (h : ∀ call ∈ after, call.kind? = none) :
    declaredKind? (before ++ .asKind kind :: after) = some kind := by
  have hafter : after.filterMap Call.kind? = [] := List.filterMap_eq_nil_iff.mpr h
  have hmarker : Call.kind? (.asKind kind) = some kind := rfl
  simp [declaredKind?, hafter, hmarker]

theorem attachedRules_marker_later :
    attachedRules (before ++ (middle ++ .asKind kind :: after)) =
      attachedRules (before ++ .asKind kind :: (middle ++ after)) := by
  have hmarker : Call.rule? (.asKind kind) = none := rfl
  simp [attachedRules, hmarker]

end Marker

theorem conflict_iff {calls : List Call} :
    Conflict calls ↔ ∃ kind rule, declaredKind? calls = some kind ∧
      ∃ before, kind.BarsFirst ((attachedRules calls).map Rule.kind) before rule := by
  have hexists : ∀ kind : Kind, (∃ rule ∈ attachedRules calls, rule.kind.accepts kind = false) ↔
      ∃ rule before, kind.BarsFirst ((attachedRules calls).map Rule.kind) before rule := by
    intro kind
    rw [exists_comm, Kind.BarsFirst.exists_iff]
    simp
  simp only [Conflict, hexists, exists_and_left]

namespace Validator

variable {validator : Validator} {name field : String} {required : Bool} {calls others : List Call}
  {draft : Draft} {rule : RuleKind} {kind : Kind}

section

variable [Pattern.Engine]

theorem install_typeConflict_iff (h : (Draft.start name).callAll 0 calls = .ok draft) :
    (validator.install draft).2 = .error (.typeConflict field rule kind) ↔
      field = name ∧ declaredKind? calls = some kind ∧
        ∃ before, kind.BarsFirst ((attachedRules calls).map Rule.kind) before rule := by
  obtain ⟨hname, hkind, hrules⟩ := Draft.spec_of_callAll_start h
  rw [install_eq_error_iff, FieldSpec.ofSpec_eq_error_iff, FieldSpec.defective_typeConflict_iff, hname,
    hkind, hrules]

theorem exists_install_typeConflict_iff (h : (Draft.start name).callAll 0 calls = .ok draft) :
    (∃ field rule kind, (validator.install draft).2 = .error (.typeConflict field rule kind)) ↔
      Conflict calls := by
  simp only [install_typeConflict_iff h, conflict_iff]
  constructor
  · intro hconflict
    obtain ⟨field, rule, kind, -, hconflict⟩ := hconflict
    exact ⟨kind, rule, hconflict⟩
  · intro hconflict
    obtain ⟨kind, rule, hconflict⟩ := hconflict
    exact ⟨name, rule, kind, rfl, hconflict⟩

theorem not_compiled_of_conflict (h : Conflict calls) :
    (validator.declareField name required calls true).2 ≠ .compiled := by
  obtain ⟨kind, rule, hkind, before, hbars⟩ := conflict_iff.mp h
  rcases validator.declareField_cases name required calls true with
    ⟨error, made, -, heq⟩ | ⟨spec, -, -, heq⟩ | ⟨spec, error, -, -, -, heq⟩ |
      ⟨spec, field, hcalls, -, hfield, heq⟩
  · simp [heq]
  · simp [heq]
  · simp [heq]
  · obtain ⟨-, hspecKind, hrules⟩ := Draft.spec_of_callAll_start hcalls
    rw [← hspecKind] at hkind
    rw [← hrules] at hbars
    have hdefective : spec.Defective name (.typeConflict name rule kind) := .conflict hkind hbars
    cases hfield.symm.trans (FieldSpec.ofSpec_eq_error_iff.mpr hdefective)

theorem exists_draft_of_compiled
    (h : (validator.declareField name required calls true).2 = .compiled) :
    ∃ draft, (Draft.start name).callAll 0 calls = .ok draft := by
  cases hcalls : (Draft.start name).callAll 0 calls with
  | ok draft => exact ⟨draft, rfl⟩
  | error failure =>
      rw [declareField, hcalls] at h
      cases h

theorem declareField_congr (hcalls : (Draft.start name).callAll 0 calls = .ok draft)
    (hothers : (Draft.start name).callAll 0 others = .ok draft)
    (hlength : calls.length = others.length) (compile : Bool) :
    validator.declareField name required calls compile =
      validator.declareField name required others compile := by
  rw [declareField, declareField, hcalls, hothers, hlength]

/-- What compiles with its kind declared behind some rules compiles the same with the kind declared
before them, if that is the last kind to be declared. -/
theorem declareField_marker_earlier {before middle after : List Call}
    (hmiddle : ∀ call ∈ middle, call.kind? = none) (hafter : ∀ call ∈ after, call.kind? = none)
    (h : (validator.declareField name required (before ++ (middle ++ .asKind kind :: after)) true).2 =
      .compiled) :
    validator.declareField name required (before ++ .asKind kind :: (middle ++ after)) true =
      validator.declareField name required (before ++ (middle ++ .asKind kind :: after)) true := by
  obtain ⟨draft, hdraft⟩ := exists_draft_of_compiled h
  have hkind : declaredKind? (before ++ (middle ++ .asKind kind :: after)) = some kind := by
    rw [← List.append_assoc]
    exact declaredKind?_of_last_marker hafter
  -- a rule that does not go with the kind would have been found when the field was compiled
  have hcarried : ∀ call ∈ middle, ∀ rule, call.rule? = some rule →
      rule.kind.accepts kind = true := by
    intro call hcall rule hrule
    rw [← Bool.not_eq_false]
    intro hbarred
    refine not_compiled_of_conflict ⟨kind, hkind, rule, ?_, hbarred⟩ h
    exact List.mem_filterMap.mpr ⟨call, by simp [hcall], hrule⟩
  apply declareField_congr (Draft.callAll_marker_earlier hdraft hmiddle hcarried) hdraft
  simp only [List.length_append, List.length_cons]
  omega

/-- Attaching rules where a kind is declared finds the same conflict as checking them all; and
behind calls in any order, compiling finds a conflict exactly where a rule does not go with the kind
declared in the end, so a conflict cannot be hidden by declaring the kind later. -/
theorem type_checks_agree (name : String) :
    (∀ kind rules calls typeMessage, Attach calls rules →
      (∀ error made, (Draft.start name).callAll 0 (.asKind kind :: calls) = .error (error, made) ↔
        ∃ before rule, kind.BarsFirst (rules.map Rule.kind) before rule ∧
          error = .typeConflict name rule kind ∧ made = before.length + 1) ∧
      ∀ error,
        (∃ made, (Draft.start name).callAll 0 (.asKind kind :: calls) = .error (error, made)) ↔
          FieldSpec.checkRuleTypes ⟨some kind, rules, typeMessage⟩ name = .error error) ∧
    (∀ calls draft, (Draft.start name).callAll 0 calls = .ok draft → ∀ validator : Validator,
      (∀ field rule kind,
        (validator.install draft).2 = .error (.typeConflict field rule kind) ↔
          field = name ∧ declaredKind? calls = some kind ∧
            ∃ before, kind.BarsFirst ((attachedRules calls).map Rule.kind) before rule) ∧
      ((∃ field rule kind, (validator.install draft).2 = .error (.typeConflict field rule kind)) ↔
        Conflict calls)) ∧
    ∀ before middle after kind, (∀ call ∈ middle, Call.kind? call = none) →
      ∀ (validator : Validator) required,
        (Conflict (before ++ .asKind kind :: (middle ++ after)) →
          (validator.declareField name required
            (before ++ (middle ++ .asKind kind :: after)) true).2 ≠ .compiled) ∧
        ((∀ call ∈ after, Call.kind? call = none) →
          (validator.declareField name required
            (before ++ (middle ++ .asKind kind :: after)) true).2 = .compiled →
          validator.declareField name required (before ++ .asKind kind :: (middle ++ after)) true =
            validator.declareField name required
              (before ++ (middle ++ .asKind kind :: after)) true) := by
  refine ⟨?_, ?_, ?_⟩
  · intro kind rules calls typeMessage hcalls
    constructor
    · intro error made
      exact Draft.callAll_asKind_attach_eq_error_iff hcalls
    · intro error
      exact Draft.exists_callAll_eq_error_iff_checkRuleTypes hcalls typeMessage
  · intro calls draft hcalls validator
    constructor
    · intro field rule kind
      exact install_typeConflict_iff hcalls
    · exact exists_install_typeConflict_iff hcalls
  · intro before middle after kind hmiddle validator required
    refine ⟨?_, declareField_marker_earlier hmiddle⟩
    intro hconflict
    apply not_compiled_of_conflict
    rw [Conflict, declaredKind?_marker_later hmiddle, attachedRules_marker_later]
    exact hconflict

end

def measured : List Call := [.minLength 2, .equalTo .null]

def measuredDraft : Draft :=
  ⟨"age", ⟨some .number,
    [⟨.minLength, some (.num (.ofUInt64 2)), .default⟩, ⟨.equalTo, some .null, .literal "short"⟩],
    none⟩⟩

theorem type_checks_agree_measured :
    let rules : List Rule :=
      [⟨.minLength, some (.num (.ofUInt64 2)), .default⟩, ⟨.equalTo, some .null, .default⟩]
    let late := measured ++ .asKind .number :: [.message "short"]
    Attach measured rules ∧ (Draft.start "age").callAll 0 late = .ok measuredDraft ∧
      (∀ call ∈ measured, call.kind? = none) ∧
      Conflict (.asKind .number :: (measured ++ [.message "short"])) ∧
      (Draft.start "age").callAll 0 (.asKind .number :: measured) =
        .error (.typeConflict "age" .minLength .number, 1) ∧
      ((ofRoot .object).install measuredDraft).2 =
        .error (.typeConflict "age" .minLength .number) ∧
      ((ofRoot .object).declareField "age" true late true).2 ≠ .compiled := by
  intro rules late
  obtain ⟨hattaching, hcompiling, hmoving⟩ := type_checks_agree "age"
  have hattach : Attach measured rules := .cons rfl (.cons rfl .nil)
  have hdraft : (Draft.start "age").callAll 0 late = .ok measuredDraft := rfl
  have hkinds : ∀ call ∈ measured, call.kind? = none := by simp [measured, Call.kind?]
  have hconflict : Conflict (.asKind .number :: (measured ++ [.message "short"])) :=
    ⟨.number, rfl, _, List.mem_cons_self, rfl⟩
  have hbars : Kind.number.BarsFirst (rules.map Rule.kind) [] .minLength :=
    ⟨⟨[.equalTo], rfl⟩, nofun, rfl⟩
  refine ⟨hattach, hdraft, hkinds, hconflict, ?_, ?_, ?_⟩
  · exact ((hattaching .number rules measured none hattach).1 _ _).mpr ⟨[], _, hbars, rfl, rfl⟩
  · exact ((hcompiling late measuredDraft hdraft (ofRoot .object)).1 _ _ _).mpr
      ⟨rfl, rfl, [], hbars⟩
  · exact (hmoving [] measured [.message "short"] .number hkinds (ofRoot .object) true).1 hconflict

end Validator

end FieldRules
