import FieldRules.Proofs.Locality

namespace FieldRules

/-! What the calls of a declaration say. A call declares a kind, attaches a rule, or words a
message: of the rule that was attached last before it, or of the type where there is none. Of
several messages, and of several kinds, the last one counts. -/

namespace Call

def kind? : Call → Option Kind
  | .asKind kind => some kind
  | _ => none

def rule? : Call → Option Rule
  | .asKind _ | .message _ => none
  | .email => some (.ofKind .email)
  | .minLength bound => some ((Rule.ofKind .minLength).withOperand (.num (.ofUInt64 bound)))
  | .maxLength bound => some ((Rule.ofKind .maxLength).withOperand (.num (.ofUInt64 bound)))
  | .pattern text => some ((Rule.ofKind .pattern).withOperand (.str text))
  | .min bound => some ((Rule.ofKind .min).withOperand bound)
  | .max bound => some ((Rule.ofKind .max).withOperand bound)
  | .equalTo expected => some ((Rule.ofKind .equalTo).withOperand expected)
  | .rule attached => some attached
  | .ruleText text => (Rule.ofText? text).toOption

theorem kind?_of_rule? {call : Call} {attached : Rule} (h : call.rule? = some attached) :
    call.kind? = none := by
  cases call with
  | asKind kind => cases h
  | _ => rfl

end Call

def attachedRules (calls : List Call) : List Rule := calls.filterMap Call.rule?

/-- The kind that an attached rule brings along where none is declared. -/
def impliedKind? (rules : List Rule) : Option Kind :=
  if rules.any fun rule => rule.kind == .email then some .string else none

/-- The kind that is declared in the end: by the last call that declares one, or else by an email
rule. -/
def declaredKind? (calls : List Call) : Option Kind :=
  (calls.filterMap Call.kind?).getLast?.or (impliedKind? (attachedRules calls))

theorem impliedKind?_cons (rule : Rule) (rules : List Rule) :
    impliedKind? (rule :: rules) = (impliedKind? [rule]).or (impliedKind? rules) := by
  cases hemail : rule.kind == .email with
  | true => simp [impliedKind?, hemail]
  | false => simp [impliedKind?, hemail]

namespace Draft

variable {draft next : Draft} {call : Call} {calls before after : List Call} {rule : Rule} {kind : Kind}
  {made : Nat}

def carrying (draft : Draft) (rule : Rule) : Draft :=
  { draft with
    spec := { draft.spec with
      kind := draft.spec.kind.or (impliedKind? [rule])
      rules := draft.spec.rules ++ [rule] } }

theorem attach_of_carried
    (h : ∀ kind, draft.spec.kind = some kind → rule.kind.accepts kind = true) :
    draft.attach rule = .ok (draft.carrying rule) := by
  obtain ⟨name, kind?, rules, typeMessage⟩ := draft
  rw [attach, carrying]
  cases kind? with
  | none =>
      by_cases hemail : rule.kind = .email
      · simp [hemail, impliedKind?, setKind, addRule]
      · simp [hemail, impliedKind?, addRule]
  | some kind => simp [h kind rfl, addRule]

theorem attach_of_barred (hkind : draft.spec.kind = some kind)
    (hbarred : rule.kind.accepts kind = false) :
    draft.attach rule = .error (.typeConflict draft.name rule.kind kind) := by
  rw [attach, hkind]
  simp [hbarred]

theorem call_of_rule? (h : call.rule? = some rule) : draft.call call = draft.attach rule := by
  cases call with
  | asKind kind => cases h
  | message text => cases h
  | ruleText text =>
      cases htext : Rule.ofText? text with
      | error error =>
          rw [Call.rule?, htext] at h
          cases h
      | ok other =>
          rw [Call.rule?, htext] at h
          cases h
          rw [Draft.call, htext]
          rfl
  | equalTo expected =>
      cases h
      rw [attach_of_carried fun _ _ => rfl, Draft.call, carrying]
      simp [impliedKind?, addRule, Rule.ofKind, Rule.withOperand]
  | _ =>
      cases h
      rfl

/-- All that a call can do. -/
inductive Answers (draft : Draft) : Call → Except UsageError Draft → Prop
  | declares (kind : Kind) : Answers draft (.asKind kind) (.ok (draft.setKind kind))
  | words (text : String) : Answers draft (.message text) (.ok (draft.setMessage text))
  | attaches {call : Call} {rule : Rule} (attached : call.rule? = some rule)
      (carried : ∀ kind, draft.spec.kind = some kind → rule.kind.accepts kind = true) :
      Answers draft call (.ok (draft.carrying rule))
  | conflicts {call : Call} {rule : Rule} {kind : Kind} (attached : call.rule? = some rule)
      (declared : draft.spec.kind = some kind) (barred : rule.kind.accepts kind = false) :
      Answers draft call (.error (.typeConflict draft.name rule.kind kind))
  | unread {text : String} {error : UsageError} (unread : Rule.ofText? text = .error error) :
      Answers draft (.ruleText text) (.error error)

theorem answers_call (draft : Draft) (call : Call) : draft.Answers call (draft.call call) := by
  cases hrule : call.rule? with
  | some rule =>
      rw [call_of_rule? hrule]
      by_cases hcarried : ∀ kind, draft.spec.kind = some kind → rule.kind.accepts kind = true
      · rw [attach_of_carried hcarried]
        exact .attaches hrule hcarried
      · simp only [not_forall, Bool.not_eq_true] at hcarried
        obtain ⟨kind, hkind, hbarred⟩ := hcarried
        rw [attach_of_barred hkind hbarred]
        exact .conflicts hrule hkind hbarred
  | none =>
      cases call with
      | asKind kind => exact .declares kind
      | message text => exact .words text
      | ruleText text =>
          cases htext : Rule.ofText? text with
          | error error =>
              rw [Draft.call, htext]
              exact .unread htext
          | ok rule =>
              rw [Call.rule?, htext] at hrule
              cases hrule
      | _ => cases hrule

theorem answers_of_call (h : draft.call call = .ok next) : draft.Answers call (.ok next) :=
  h ▸ draft.answers_call call

theorem spec_setMessage (draft : Draft) (text : String) :
    (draft.setMessage text).spec.kind = draft.spec.kind ∧
      (draft.setMessage text).spec.rules.map Rule.kind = draft.spec.rules.map Rule.kind := by
  unfold setMessage
  split
  next rule hlast =>
    obtain ⟨earlier, hrules⟩ := List.getLast?_eq_some_iff.mp hlast
    refine ⟨rfl, ?_⟩
    simp [hrules, Rule.withMessage]
  next => exact ⟨rfl, rfl⟩

theorem setMessage_setKind (draft : Draft) (text : String) (kind : Kind) :
    (draft.setKind kind).setMessage text = (draft.setMessage text).setKind kind := by
  unfold setMessage
  simp only [setKind]
  split
  next => rfl
  next => rfl

theorem kind_of_callAll (h : draft.callAll made calls = .ok next) :
    next.spec.kind = (calls.filterMap Call.kind?).getLast?.or
      (draft.spec.kind.or (impliedKind? (attachedRules calls))) := by
  induction calls generalizing draft made with
  | nil =>
      cases h
      simp [attachedRules, impliedKind?]
  | cons call rest ih =>
      rw [callAll] at h
      split at h
      next middle hcall =>
        rw [ih h]
        cases answers_of_call hcall with
        | declares kind =>
            have hkinds : (Call.asKind kind :: rest).filterMap Call.kind? =
                kind :: rest.filterMap Call.kind? := List.filterMap_cons_some rfl
            rw [hkinds, List.getLast?_cons]
            cases (rest.filterMap Call.kind?).getLast? with
            | none => simp [setKind]
            | some last => simp
        | words text => rw [(spec_setMessage draft text).1]; rfl
        | @attaches _ rule attached carried =>
            -- what an email rule brings along stands behind what the calls before it declared
            rw [List.filterMap_cons_none (Call.kind?_of_rule? attached), attachedRules, attachedRules,
              List.filterMap_cons_some attached, impliedKind?_cons rule, carrying, Option.or_assoc]
      next => cases h

theorem ruleKinds_of_callAll (h : draft.callAll made calls = .ok next) :
    next.spec.rules.map Rule.kind =
      draft.spec.rules.map Rule.kind ++ (attachedRules calls).map Rule.kind := by
  induction calls generalizing draft made with
  | nil =>
      cases h
      simp [attachedRules]
  | cons call rest ih =>
      rw [callAll] at h
      split at h
      next middle hcall =>
        rw [ih h]
        cases answers_of_call hcall with
        | declares kind => rfl
        | words text => rw [(spec_setMessage draft text).2]; rfl
        | @attaches _ rule attached carried =>
            simp [carrying, attachedRules, List.filterMap_cons_some attached]
      next => cases h

theorem call_setKind (h : draft.call call = .ok next) (hkind : call.kind? = none)
    (hcarried : ∀ rule, call.rule? = some rule → rule.kind.accepts kind = true) :
    (draft.setKind kind).call call = .ok (next.setKind kind) := by
  cases answers_of_call h with
  | declares kind => cases hkind
  | words text => exact congrArg Except.ok (setMessage_setKind draft text kind)
  | attaches attached carried =>
      rw [call_of_rule? attached, attach_of_carried]
      · rfl
      · intro other hother
        cases hother
        exact hcarried _ attached

theorem callAll_setKind (h : draft.callAll made calls = .ok next)
    (hkinds : ∀ call ∈ calls, call.kind? = none)
    (hcarried : ∀ call ∈ calls, ∀ rule, call.rule? = some rule → rule.kind.accepts kind = true)
    (count : Nat) : (draft.setKind kind).callAll count calls = .ok (next.setKind kind) := by
  induction calls generalizing draft made count with
  | nil =>
      cases h
      rfl
  | cons call rest ih =>
      rw [List.forall_mem_cons] at hkinds hcarried
      rw [callAll] at h
      split at h
      next middle hcall =>
        rw [callAll, call_setKind hcall hkinds.1 hcarried.1]
        exact ih h hkinds.2 hcarried.2 (count + 1)
      next => cases h

theorem callAll_append_eq_ok_iff :
    draft.callAll made (before ++ after) = .ok next ↔
      ∃ middle, draft.callAll made before = .ok middle ∧
        middle.callAll (made + before.length) after = .ok next := by
  cases hbefore : draft.callAll made before with
  | ok middle => simp [callAll_append_of_ok hbefore]
  | error failure =>
      obtain ⟨error, count⟩ := failure
      obtain ⟨earlier, call, later, middle, rfl, hearlier, hfailed, hcount⟩ :=
        callAll_eq_error_iff.mp hbefore
      have hfails : draft.callAll made (earlier ++ call :: later ++ after) = .error (error, count) :=
        callAll_eq_error_iff.mpr
          ⟨earlier, call, later ++ after, middle, by simp, hearlier, hfailed, hcount⟩
      rw [hfails]
      simp

end Draft

namespace Call

def message? : Call → Option String
  | .message text => some text
  | _ => none

theorem rule?_of_kind? {call : Call} {kind : Kind} (h : call.kind? = some kind) :
    call.rule? = none := by
  cases call with
  | asKind => rfl
  | _ => cases h

theorem message?_of_kind? {call : Call} {kind : Kind} (h : call.kind? = some kind) :
    call.message? = none := by
  cases call with
  | asKind => rfl
  | _ => cases h

end Call

/-- The last message that is worded before another rule is attached. -/
def lastMessage? (calls : List Call) : Option String :=
  ((calls.takeWhile fun call => call.rule?.isNone).filterMap Call.message?).getLast?

section lastMessage?

variable {call : Call} {calls markers : List Call} {rule : Rule} {text : String} {kind : Kind}

theorem lastMessage?_cons_of_rule? (h : call.rule? = some rule) :
    lastMessage? (call :: calls) = none := by
  simp [lastMessage?, h]

theorem lastMessage?_cons_message :
    lastMessage? (.message text :: calls) = some ((lastMessage? calls).getD text) := by
  have hrule : Call.rule? (.message text) = none := rfl
  have hmessage : Call.message? (.message text) = some text := rfl
  simp [lastMessage?, hrule, hmessage, List.getLast?_cons]

theorem lastMessage?_cons_of_kind? (h : call.kind? = some kind) :
    lastMessage? (call :: calls) = lastMessage? calls := by
  simp [lastMessage?, Call.rule?_of_kind? h, Call.message?_of_kind? h]

theorem lastMessage?_markers_append (h : ∀ marker ∈ markers, ∃ kind, Call.kind? marker = some kind)
    (calls : List Call) : lastMessage? (markers ++ calls) = lastMessage? calls := by
  induction markers with
  | nil => rfl
  | cons marker markers ih =>
      obtain ⟨⟨kind, hkind⟩, hrest⟩ := List.forall_mem_cons.mp h
      rw [List.cons_append, lastMessage?_cons_of_kind? hkind, ih hrest]

end lastMessage?

def Rule.worded (rule : Rule) : Option String → Rule
  | some text => rule.withMessage text
  | none => rule

/-- What a list of calls says about a field, call by call: its rules are those that are attached, in
their order, each with the last message that is worded before the next one, if any, and otherwise as
it comes. -/
structure Reads (calls : List Call) (spec : FieldSpec) : Prop where
  kind_eq : spec.kind = declaredKind? calls
  typeMessage_eq : spec.typeMessage = lastMessage? calls
  length_eq : spec.rules.length = (attachedRules calls).length
  rule : ∀ before call after rule, calls = before ++ call :: after → Call.rule? call = some rule →
    spec.rules[(attachedRules before).length]? = some (rule.worded (lastMessage? after))

theorem exists_split_of_lt_attachedRules {calls : List Call} {i : Nat}
    (h : i < (attachedRules calls).length) :
    ∃ before call after rule, calls = before ++ call :: after ∧ Call.rule? call = some rule ∧
      (attachedRules before).length = i := by
  induction calls generalizing i with
  | nil => cases h
  | cons call calls ih =>
      cases hrule : call.rule? with
      | none =>
          have hskip : ∀ rest, attachedRules (call :: rest) = attachedRules rest :=
            fun rest => List.filterMap_cons_none hrule
          rw [hskip] at h
          obtain ⟨before, found, after, rule, rfl, hfound, hlength⟩ := ih h
          exact ⟨call :: before, found, after, rule, rfl, hfound, by rw [hskip, hlength]⟩
      | some first =>
          have hattached : ∀ rest, attachedRules (call :: rest) = first :: attachedRules rest :=
            fun rest => List.filterMap_cons_some hrule
          cases i with
          | zero => exact ⟨[], call, calls, first, rfl, hrule, rfl⟩
          | succ i =>
              rw [hattached, List.length_cons, Nat.add_lt_add_iff_right] at h
              obtain ⟨before, found, after, rule, rfl, hfound, hlength⟩ := ih h
              refine ⟨call :: before, found, after, rule, rfl, hfound, ?_⟩
              rw [hattached, List.length_cons, hlength]

theorem Reads.unique {calls : List Call} {spec other : FieldSpec} (h : Reads calls spec)
    (hother : Reads calls other) : spec = other := by
  obtain ⟨kind, rules, typeMessage⟩ := spec
  obtain ⟨kind', rules', typeMessage'⟩ := other
  have hkind : kind = kind' := h.kind_eq.trans hother.kind_eq.symm
  have htype : typeMessage = typeMessage' := h.typeMessage_eq.trans hother.typeMessage_eq.symm
  have hlength : rules.length = rules'.length := h.length_eq.trans hother.length_eq.symm
  have hrules : rules = rules' := by
    apply List.ext_getElem? fun i => ?_
    by_cases hi : i < rules.length
    · obtain ⟨before, call, after, rule, hsplit, hcall, rfl⟩ :=
        exists_split_of_lt_attachedRules (h.length_eq ▸ hi)
      exact (h.rule before call after rule hsplit hcall).trans
        (hother.rule before call after rule hsplit hcall).symm
    · rw [List.getElem?_eq_none (by omega), List.getElem?_eq_none (by omega)]
  rw [hkind, htype, hrules]

namespace Draft

variable {draft next : Draft} {calls : List Call} {rule : Rule} {made : Nat} {name : String}

def reworded (draft : Draft) : Option String → Draft
  | some text => draft.setMessage text
  | none => draft

theorem setMessage_setMessage (draft : Draft) (text other : String) :
    (draft.setMessage text).setMessage other = draft.setMessage other := by
  cases hlast : draft.spec.rules.getLast? with
  | none => simp [setMessage, hlast]
  | some rule => simp [setMessage, hlast, Rule.withMessage]

theorem reworded_setMessage (draft : Draft) (text : String) (other? : Option String) :
    (draft.setMessage text).reworded other? = draft.reworded (some (other?.getD text)) := by
  cases other? with
  | none => rfl
  | some other => exact setMessage_setMessage draft text other

theorem reworded_setKind (draft : Draft) (kind : Kind) (text? : Option String) :
    (draft.setKind kind).reworded text? = (draft.reworded text?).setKind kind := by
  cases text? with
  | none => rfl
  | some text => exact setMessage_setKind draft text kind

theorem rules_reworded_carrying (draft : Draft) (rule : Rule) (text? : Option String) :
    ((draft.carrying rule).reworded text?).spec.rules =
      draft.spec.rules ++ [rule.worded text?] := by
  cases text? with
  | none => rfl
  | some text => simp [reworded, setMessage, carrying, Rule.worded]

theorem typeMessage_reworded_carrying (draft : Draft) (rule : Rule) (text? : Option String) :
    ((draft.carrying rule).reworded text?).spec.typeMessage = draft.spec.typeMessage := by
  cases text? with
  | none => rfl
  | some text => simp [reworded, setMessage, carrying]

/-- Calls word what is there before their first rule, and attach rules behind it. -/
theorem spec_of_callAll (h : draft.callAll made calls = .ok next) :
    (∃ more, next.spec.rules = (draft.reworded (lastMessage? calls)).spec.rules ++ more) ∧
      next.spec.typeMessage = (draft.reworded (lastMessage? calls)).spec.typeMessage := by
  induction calls generalizing draft made with
  | nil =>
      cases h
      exact ⟨⟨[], (List.append_nil _).symm⟩, rfl⟩
  | cons call rest ih =>
      rw [callAll] at h
      split at h
      next middle hcall =>
        have hrest := ih h
        cases answers_of_call hcall with
        | declares kind =>
            rw [reworded_setKind] at hrest
            rw [lastMessage?_cons_of_kind? rfl]
            exact hrest
        | words text =>
            rw [reworded_setMessage] at hrest
            rw [lastMessage?_cons_message]
            exact hrest
        | @attaches _ rule attached _ =>
            -- the messages of the rest word the rule that is attached here, and nothing before it
            rw [rules_reworded_carrying, typeMessage_reworded_carrying] at hrest
            obtain ⟨⟨more, hrules⟩, htype⟩ := hrest
            rw [lastMessage?_cons_of_rule? attached]
            refine ⟨⟨rule.worded (lastMessage? rest) :: more, ?_⟩, htype⟩
            rw [hrules, List.append_assoc]
            rfl
      next => cases h

theorem length_rules_of_callAll (h : (start name).callAll made calls = .ok draft) :
    draft.spec.rules.length = (attachedRules calls).length := by
  have hkinds := congrArg List.length (ruleKinds_of_callAll h)
  simpa [start, FieldSpec.empty] using hkinds

theorem reads_of_callAll (h : (start name).callAll made calls = .ok draft) :
    Reads calls draft.spec where
  kind_eq := kind_of_callAll h
  typeMessage_eq := by
    rw [(spec_of_callAll h).2]
    cases lastMessage? calls with
    | none => rfl
    | some text => rfl
  length_eq := length_rules_of_callAll h
  rule before call after rule hsplit hrule := by
    subst hsplit
    obtain ⟨middle, hbefore, h⟩ := callAll_append_eq_ok_iff.mp h
    rw [callAll] at h
    split at h
    next carried hcall =>
      cases answers_of_call hcall with
      | declares kind => cases hrule
      | words text => cases hrule
      | @attaches _ attached hattached _ =>
          obtain rfl : attached = rule := Option.some.inj (hattached.symm.trans hrule)
          obtain ⟨⟨more, hrules⟩, -⟩ := spec_of_callAll h
          rw [hrules, rules_reworded_carrying, ← length_rules_of_callAll hbefore, List.append_assoc,
            List.getElem?_append_right (Nat.le_refl _), Nat.sub_self]
          rfl
    next => cases h

end Draft

namespace Validator

variable {name : String} {calls : List Call} {draft : Draft}

section

variable [Pattern.Engine]

theorem field?_declareField_of_callAll (validator : Validator) (required : Bool)
    (h : (Draft.start name).callAll 0 calls = .ok draft) :
    (validator.declareField name required calls true).1.schema.field? name = some draft.spec := by
  rcases validator.declareField_cases name required calls true with
    ⟨error, made, hcalls, -⟩ | ⟨spec, -, hdropped, -⟩ | ⟨spec, error, hcalls, -, -, heq⟩ |
      ⟨spec, field, hcalls, -, -, heq⟩
  · cases h.symm.trans hcalls
  · cases hdropped
  · cases h.symm.trans hcalls
    rw [heq]
    exact Schema.field?_store_self
  · cases h.symm.trans hcalls
    rw [heq]
    exact Schema.field?_store_self

/-- The calls of a declaration are read by position, and declaring a kind between a rule and its
message makes no difference. -/
theorem calls_are_read_by_position (h : (Draft.start name).callAll 0 calls = .ok draft) :
    (∀ (validator : Validator) required,
      (validator.declareField name required calls true).1.schema.field? name = some draft.spec) ∧
    (∀ spec, Reads calls spec ↔ spec = draft.spec) ∧
    ∀ before call markers text after rule,
      calls = before ++ call :: (markers ++ .message text :: after) → Call.rule? call = some rule →
      (∀ marker ∈ markers, ∃ kind, Call.kind? marker = some kind) → lastMessage? after = none →
        draft.spec.rules[(attachedRules before).length]? = some (rule.withMessage text) := by
  have hreads := Draft.reads_of_callAll h
  refine ⟨fun validator required => field?_declareField_of_callAll validator required h, ?_, ?_⟩
  · intro spec
    constructor
    · intro hspec
      exact hspec.unique hreads
    · intro hspec
      rw [hspec]
      exact hreads
  · intro before call markers text after rule hsplit hrule hmarkers hlast
    rw [hreads.rule before call _ rule hsplit hrule, lastMessage?_markers_append hmarkers,
      lastMessage?_cons_message, hlast]
    rfl

end

def addressCalls : List Call :=
  [.message "not a text", .email, .asKind .string, .message "no address", .minLength 6,
    .message "short", .message "too short", .maxLength 40]

def addressDraft : Draft :=
  ⟨"email", ⟨some .string,
    [⟨.email, none, .literal "no address"⟩,
      ⟨.minLength, some (.num (.ofUInt64 6)), .literal "too short"⟩,
      ⟨.maxLength, some (.num (.ofUInt64 40)), .default⟩],
    some "not a text"⟩⟩

theorem calls_are_read_by_position_address :
    (Draft.start "email").callAll 0 addressCalls = .ok addressDraft ∧
      Reads addressCalls addressDraft.spec ∧
      addressDraft.spec.rules[0]? = some ((Rule.ofKind .email).withMessage "no address") := by
  have hcalls : (Draft.start "email").callAll 0 addressCalls = .ok addressDraft := rfl
  obtain ⟨-, hreads, hmarkers⟩ := calls_are_read_by_position hcalls
  refine ⟨hcalls, (hreads _).mpr rfl, ?_⟩
  exact hmarkers [.message "not a text"] .email [.asKind .string] "no address" _ _ rfl rfl
    (List.forall_mem_singleton.mpr ⟨.string, rfl⟩) rfl

end Validator

end FieldRules
