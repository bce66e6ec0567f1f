import FieldRules.Pattern.Program
import FieldRules.Shared
import Mathlib.Data.List.Nodup

namespace FieldRules.Shared

/-! Sharing a validator adds nothing to what is done with it and loses nothing: the handles all lead
to one validator, and only the last one of them takes it out. -/

def Action.handle : Action → Nat
  | .hold handle _ | .errors handle | .duplicate handle | .release handle | .takeOut handle => handle

def Action.closure? : Action → Option Closure
  | .hold _ closure => some closure
  | _ => none

def Reply.outcomes? : Reply → Option (List Outcome)
  | .outcomes results => some results
  | _ => none

def Reply.takenOut? : Reply → Option Validator
  | .takenOut validator => some validator
  | _ => none

def Reply.gain : Reply → Int
  | .issued _ => 1
  | .released | .takenOut _ => -1
  | _ => 0

def gained (replies : List Reply) : Int := replies.foldr (fun reply more => reply.gain + more) 0

variable {shared : Shared} {action : Action} {actions before after : List Action} {handle : Nat}

/-- Runs closures one after the other on a validator that is not shared. -/
def runAll (validator : Validator) : List Closure → Validator × List (List Outcome)
  | [] => (validator, [])
  | closure :: closures =>
      let (validator, outcomes) := closure validator
      let (validator, more) := runAll validator closures
      (validator, outcomes :: more)

/-- Each action goes through a handle that is live by then. -/
def ThroughLive (shared : Shared) : List Action → Prop
  | [] => True
  | action :: actions =>
      action.handle ∈ shared.live ∧ (shared.act action).1.ThroughLive actions

/-- Live handles have been issued, each once. -/
structure Sound (shared : Shared) : Prop where
  nodup : shared.live.Nodup
  issued : ∀ handle ∈ shared.live, handle < shared.issued

theorem sound_ofValidator (validator : Validator) : (ofValidator validator).Sound where
  nodup := List.nodup_singleton 0
  issued := by
    intro handle hhandle
    cases List.mem_singleton.mp hhandle
    exact Nat.one_pos

theorem Sound.live_eq_singleton_iff (h : shared.Sound) (hlive : handle ∈ shared.live) :
    shared.live = [handle] ↔ ∀ other ∈ shared.live, other = handle := by
  constructor
  · intro heq other hother
    rw [heq] at hother
    exact List.mem_singleton.mp hother
  · intro hall
    have hnodup := h.nodup
    match hhandles : shared.live with
    | [] =>
        rw [hhandles] at hlive
        cases hlive
    | [first] => rw [hall first (by simp [hhandles])]
    | first :: second :: rest =>
        have hfirst := hall first (by simp [hhandles])
        have hsecond := hall second (by simp [hhandles])
        rw [hhandles, hfirst, hsecond] at hnodup
        exact absurd List.mem_cons_self (List.nodup_cons.mp hnodup).1

inductive Acts (shared : Shared) : Action → Shared → Reply → Prop
  | hold (handle : Nat) (closure : Closure) :
      Acts shared (.hold handle closure)
        { shared with validator := (closure shared.validator).1 }
        (.outcomes (closure shared.validator).2)
  | errors (handle : Nat) :
      Acts shared (.errors handle) shared (.errors shared.validator.errors)
  | duplicate (handle : Nat) :
      Acts shared (.duplicate handle)
        { shared with live := shared.live ++ [shared.issued], issued := shared.issued + 1 }
        (.issued shared.issued)
  | release (handle : Nat) (live : handle ∈ shared.live) :
      Acts shared (.release handle) { shared with live := shared.live.erase handle } .released
  | takenOut (handle : Nat) (last : shared.live = [handle]) :
      Acts shared (.takeOut handle) { shared with live := [] } (.takenOut shared.validator)
  | kept (handle : Nat) (more : shared.live ≠ [handle]) :
      Acts shared (.takeOut handle) shared (.kept handle)

theorem act_takeOut_last (h : shared.live = [handle]) :
    shared.act (.takeOut handle) =
      ({ shared with live := [] }, .takenOut shared.validator) := by
  have hlive : handle ∈ shared.live := by simp [h]
  rw [act, if_pos hlive, if_pos h]

theorem act_takeOut_not_last (hlive : handle ∈ shared.live) (h : shared.live ≠ [handle]) :
    shared.act (.takeOut handle) = (shared, .kept handle) := by
  rw [act, if_pos hlive, if_neg h]

theorem acts_act (h : action.handle ∈ shared.live) :
    shared.Acts action (shared.act action).1 (shared.act action).2 := by
  cases action with
  | hold handle closure =>
      have hlive : handle ∈ shared.live := h
      rw [act, if_pos hlive]
      exact .hold handle closure
  | errors handle =>
      have hlive : handle ∈ shared.live := h
      rw [act, if_pos hlive]
      exact .errors handle
  | duplicate handle =>
      have hlive : handle ∈ shared.live := h
      rw [act, if_pos hlive]
      exact .duplicate handle
  | release handle =>
      have hlive : handle ∈ shared.live := h
      rw [act, if_pos hlive]
      exact .release handle hlive
  | takeOut handle =>
      have hlive : handle ∈ shared.live := h
      by_cases hlast : shared.live = [handle]
      · rw [act_takeOut_last hlast]
        exact .takenOut handle hlast
      · rw [act_takeOut_not_last hlive hlast]
        exact .kept handle hlast

section step

variable {next : Shared} {reply : Reply}

theorem Acts.sound (h : shared.Acts action next reply) (hsound : shared.Sound) : next.Sound := by
  cases h with
  | hold => exact ⟨hsound.nodup, hsound.issued⟩
  | errors | kept => exact hsound
  | duplicate =>
      have hfresh : shared.issued ∉ shared.live := fun hmem =>
        Nat.lt_irrefl _ (hsound.issued _ hmem)
      refine ⟨?_, ?_⟩
      · rw [List.nodup_append]
        refine ⟨hsound.nodup, List.nodup_singleton _, ?_⟩
        intro handle hhandle fresh hnew heq
        rw [heq, List.mem_singleton.mp hnew] at hhandle
        exact hfresh hhandle
      · intro handle hhandle
        rcases List.mem_append.mp hhandle with hold | hnew
        · exact Nat.lt_succ_of_lt (hsound.issued handle hold)
        · rw [List.mem_singleton.mp hnew]
          exact Nat.lt_succ_self _
  | release handle =>
      refine ⟨hsound.nodup.erase handle, ?_⟩
      intro other hother
      exact hsound.issued other (List.mem_of_mem_erase hother)
  | takenOut => exact ⟨List.nodup_nil, by simp⟩

theorem Acts.runAll_eq (h : shared.Acts action next reply) :
    runAll shared.validator action.closure?.toList =
      (next.validator, reply.outcomes?.toList) := by
  cases h <;> rfl

theorem Acts.length_live (h : shared.Acts action next reply) :
    (next.live.length : Int) = shared.live.length + reply.gain := by
  cases h with
  | hold | errors | kept => simp [Reply.gain]
  | duplicate => simp [Reply.gain]
  | release handle hlive =>
      have hpos := List.length_pos_of_mem hlive
      rw [List.length_erase_of_mem hlive, Reply.gain]
      omega
  | takenOut handle hlast => simp [Reply.gain, hlast]

end step

section run

variable {validator : Validator}

theorem actAll_cons (shared : Shared) (action : Action) (actions : List Action) :
    shared.actAll (action :: actions) =
      (((shared.act action).1.actAll actions).1,
        (shared.act action).2 :: ((shared.act action).1.actAll actions).2) := rfl

theorem actAll_append (shared : Shared) (first second : List Action) :
    shared.actAll (first ++ second) =
      (((shared.actAll first).1.actAll second).1,
        (shared.actAll first).2 ++ ((shared.actAll first).1.actAll second).2) := by
  induction first generalizing shared with
  | nil => rfl
  | cons action rest ih => simp only [List.cons_append, actAll_cons, ih]

theorem length_actAll (shared : Shared) (actions : List Action) :
    (shared.actAll actions).2.length = actions.length := by
  induction actions generalizing shared with
  | nil => rfl
  | cons action rest ih => rw [actAll_cons, List.length_cons, ih, List.length_cons]

theorem getElem?_actAll (shared : Shared) (before : List Action) (action : Action)
    (after : List Action) :
    (shared.actAll (before ++ action :: after)).2[before.length]? =
      some ((shared.actAll before).1.act action).2 := by
  rw [actAll_append, actAll_cons, ← length_actAll shared before,
    List.getElem?_append_right (Nat.le_refl _), Nat.sub_self]
  rfl

theorem throughLive_append {first second : List Action} :
    shared.ThroughLive (first ++ second) ↔
      shared.ThroughLive first ∧ (shared.actAll first).1.ThroughLive second := by
  induction first generalizing shared with
  | nil => simp [ThroughLive, actAll]
  | cons action rest ih => rw [List.cons_append, ThroughLive, ThroughLive, ih, actAll_cons, and_assoc]

theorem runAll_append (validator : Validator) (first second : List Closure) :
    runAll validator (first ++ second) =
      ((runAll (runAll validator first).1 second).1,
        (runAll validator first).2 ++ (runAll (runAll validator first).1 second).2) := by
  induction first generalizing validator with
  | nil => rfl
  | cons closure rest ih => simp only [List.cons_append, runAll, ih]

theorem Sound.actAll (h : shared.Sound) (hlive : shared.ThroughLive actions) :
    (shared.actAll actions).1.Sound := by
  induction actions generalizing shared with
  | nil => exact h
  | cons action rest ih =>
      obtain ⟨hfirst, hrest⟩ := hlive
      exact ih ((acts_act hfirst).sound h) hrest

theorem runAll_eq_actAll (hlive : shared.ThroughLive actions) :
    runAll shared.validator (actions.filterMap Action.closure?) =
      ((shared.actAll actions).1.validator,
        (shared.actAll actions).2.filterMap Reply.outcomes?) := by
  induction actions generalizing shared with
  | nil => rfl
  | cons action rest ih =>
      obtain ⟨hfirst, hrest⟩ := hlive
      simp only [List.filterMap_eq_flatMap_toList, List.flatMap_cons, runAll_append, actAll_cons,
        (acts_act hfirst).runAll_eq] at ih ⊢
      rw [ih hrest]

theorem gained_cons (reply : Reply) (replies : List Reply) :
    gained (reply :: replies) = reply.gain + gained replies :=
  rfl

theorem length_live_actAll (hlive : shared.ThroughLive actions) :
    ((shared.actAll actions).1.live.length : Int) =
      shared.live.length + gained (shared.actAll actions).2 := by
  induction actions generalizing shared with
  | nil => simp [actAll, gained]
  | cons action rest ih =>
      obtain ⟨hfirst, hrest⟩ := hlive
      rw [actAll_cons, ih hrest, (acts_act hfirst).length_live, gained_cons]
      omega

theorem eq_nil_of_throughLive (h : shared.live = []) (hlive : shared.ThroughLive actions) :
    actions = [] := by
  cases actions with
  | nil => rfl
  | cons action rest =>
      have hmem := hlive.1
      rw [h] at hmem
      cases hmem

/-- A validator is taken out once at most, and no handle is left then. -/
theorem takenOut_actAll (hlive : shared.ThroughLive actions) :
    (shared.actAll actions).2.filterMap Reply.takenOut? = [] ∨
      ∃ taken, (shared.actAll actions).2.filterMap Reply.takenOut? = [taken] ∧
        (shared.actAll actions).1.live = [] := by
  induction actions generalizing shared with
  | nil => exact .inl rfl
  | cons action rest ih =>
      obtain ⟨hfirst, hrest⟩ := hlive
      have hacts := acts_act hfirst
      rw [actAll_cons, List.filterMap_cons]
      generalize (shared.act action).1 = next at hacts hrest
      generalize (shared.act action).2 = reply at hacts
      cases hacts with
      | takenOut =>
          rw [eq_nil_of_throughLive rfl hrest]
          exact .inr ⟨_, rfl, rfl⟩
      | _ => exact ih hrest

end run

def ownedAfter (validator : Validator) (actions : List Action) : Validator :=
  (runAll validator (actions.filterMap Action.closure?)).1

/-- A run through handles that share a validator, as seen by who would run its closures on the
validator itself. -/
structure RunsAsOwned (validator : Validator) (actions : List Action) : Prop where
  runAll_eq : runAll validator (actions.filterMap Action.closure?) =
    (((ofValidator validator).actAll actions).1.validator,
      ((ofValidator validator).actAll actions).2.filterMap Reply.outcomes?)
  errors_eq : ∀ before handle after, actions = before ++ .errors handle :: after →
    ((ofValidator validator).actAll actions).2[before.length]? =
      some (.errors (ownedAfter validator before).errors)
  takenOut_iff : ∀ before handle after, actions = before ++ .takeOut handle :: after →
    (((ofValidator validator).actAll actions).2[before.length]? =
        some (.takenOut (ownedAfter validator before)) ↔
      ∀ other ∈ ((ofValidator validator).actAll before).1.live, other = handle)
  kept : ∀ before handle after, actions = before ++ .takeOut handle :: after →
    (∃ other ∈ ((ofValidator validator).actAll before).1.live, other ≠ handle) →
      ((ofValidator validator).actAll actions).2[before.length]? = some (.kept handle) ∧
      ((ofValidator validator).actAll (before ++ [.takeOut handle])).1 =
        ((ofValidator validator).actAll before).1
  takenOut_once :
    (((ofValidator validator).actAll actions).2.filterMap Reply.takenOut?).length ≤ 1
  live_eq_nil : ((ofValidator validator).actAll actions).2.filterMap Reply.takenOut? ≠ [] →
    ((ofValidator validator).actAll actions).1.live = []
  length_live : (((ofValidator validator).actAll actions).1.live.length : Int) =
    1 + gained ((ofValidator validator).actAll actions).2

theorem validator_actAll {validator : Validator}
    (hlive : (ofValidator validator).ThroughLive actions) :
    ((ofValidator validator).actAll actions).1.validator = ownedAfter validator actions :=
  (congrArg Prod.fst (runAll_eq_actAll hlive)).symm

theorem shared_runs_as_owned {validator : Validator}
    (hlive : (ofValidator validator).ThroughLive actions) : RunsAsOwned validator actions where
  runAll_eq := runAll_eq_actAll hlive
  errors_eq := by
    intro before handle after hactions
    subst hactions
    obtain ⟨hbefore, hafter⟩ := throughLive_append.mp hlive
    have hhandle : handle ∈ ((ofValidator validator).actAll before).1.live := hafter.1
    rw [getElem?_actAll, ← validator_actAll hbefore, act, if_pos hhandle]
  takenOut_iff := by
    intro before handle after hactions
    subst hactions
    obtain ⟨hbefore, hafter⟩ := throughLive_append.mp hlive
    have hhandle : handle ∈ ((ofValidator validator).actAll before).1.live := hafter.1
    have hsound := (sound_ofValidator validator).actAll hbefore
    rw [getElem?_actAll, ← validator_actAll hbefore, ← hsound.live_eq_singleton_iff hhandle]
    constructor
    · intro hreply
      apply Classical.byContradiction
      intro hmore
      rw [act_takeOut_not_last hhandle hmore] at hreply
      cases hreply
    · intro hlast
      rw [act_takeOut_last hlast]
  kept := by
    intro before handle after hactions hmore
    subst hactions
    obtain ⟨hbefore, hafter⟩ := throughLive_append.mp hlive
    have hhandle : handle ∈ ((ofValidator validator).actAll before).1.live := hafter.1
    obtain ⟨other, hother, hne⟩ := hmore
    have hlast : ((ofValidator validator).actAll before).1.live ≠ [handle] := by
      intro heq
      rw [heq] at hother
      exact hne (List.mem_singleton.mp hother)
    rw [getElem?_actAll, actAll_append, actAll_cons, act_takeOut_not_last hhandle hlast]
    exact ⟨rfl, rfl⟩
  takenOut_once := by
    rcases takenOut_actAll hlive with hnone | ⟨taken, htaken, -⟩
    · simp [hnone]
    · simp [htaken]
  live_eq_nil := by
    intro hsome
    rcases takenOut_actAll hlive with hnone | ⟨taken, -, hempty⟩
    · exact absurd hnone hsome
    · exact hempty
  length_live := length_live_actAll hlive

def handover : List Action :=
  [.duplicate 0, .operate 0 (.declareField "age" true [.asKind .integer] true),
    .hold 1 fun validator => (validator.withTypeEnforcement true).performAll
      [.validateProperty "age" (.str "ten"), .validateProperty "age" (.num (.ofUInt64 10))],
    .takeOut 0, .errors 0, .release 1, .takeOut 0]

theorem shared_runs_as_owned_handover :
    (ofValidator (.ofRoot .object)).ThroughLive handover ∧
      RunsAsOwned (.ofRoot .object) handover ∧
      (((ofValidator (.ofRoot .object)).actAll handover).2.filterMap Reply.takenOut?).map
        (fun validator => validator.errors.table.keys) = [["age"]] := by
  have hlive : (ofValidator (.ofRoot .object)).ThroughLive handover := by
    simp only [handover, ThroughLive]
    decide
  exact ⟨hlive, shared_runs_as_owned hlive, rfl⟩

end FieldRules.Shared
