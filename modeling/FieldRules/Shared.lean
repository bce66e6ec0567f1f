import FieldRules.Validator

namespace FieldRules

/-- A validator that several handles share. Handles are numbered as they are issued; every live
handle leads to the same validator, and the last one can take it out. -/
structure Shared where
  validator : Validator
  live : List Nat
  issued : Nat

namespace Shared

/-- What is done with a validator while it is held, and the outcomes that come of it. -/
abbrev Closure := Validator → Validator × List Outcome

inductive Action where
  | hold (handle : Nat) (closure : Closure)
  | errors (handle : Nat)
  | duplicate (handle : Nat)
  | release (handle : Nat)
  | takeOut (handle : Nat)

def Action.operate [Pattern.Engine] (handle : Nat) (operation : Operation) : Action :=
  .hold handle fun validator => validator.performAll [operation]

inductive Reply where
  | outcomes (outcomes : List Outcome)
  | errors (errors : ErrorMap)
  | issued (handle : Nat)
  | released
  | takenOut (validator : Validator)
  | kept (handle : Nat)
  | dead

@[match_pattern] def Reply.outcome (outcome : Outcome) : Reply := .outcomes [outcome]

def ofValidator (validator : Validator) : Shared := ⟨validator, [0], 1⟩

def act (shared : Shared) (action : Action) : Shared × Reply :=
  match action with
  | .hold handle closure =>
      if handle ∈ shared.live then
        let (validator, outcomes) := closure shared.validator
        ({ shared with validator := validator }, .outcomes outcomes)
      else (shared, .dead)
  | .errors handle =>
      if handle ∈ shared.live then (shared, .errors shared.validator.errors) else (shared, .dead)
  | .duplicate handle =>
      if handle ∈ shared.live then
        ({ shared with live := shared.live ++ [shared.issued], issued := shared.issued + 1 },
          .issued shared.issued)
      else (shared, .dead)
  | .release handle =>
      if handle ∈ shared.live then
        ({ shared with live := shared.live.erase handle }, .released)
      else (shared, .dead)
  | .takeOut handle =>
      if handle ∈ shared.live then
        if shared.live = [handle] then ({ shared with live := [] }, .takenOut shared.validator)
        else (shared, .kept handle)
      else (shared, .dead)

def actAll (shared : Shared) : List Action → Shared × List Reply
  | [] => (shared, [])
  | action :: actions =>
      let (shared, reply) := shared.act action
      let (shared, replies) := shared.actAll actions
      (shared, reply :: replies)

end Shared

end FieldRules
