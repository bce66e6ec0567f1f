import FieldRules.Proofs.Pattern.Anchoring
import FieldRules.Proofs.Pattern.Language

namespace FieldRules.Pattern

namespace Token

def InOrder : Token → Prop
  | .quantifier least most _ => ∀ greatest ∈ most, least ≤ greatest
  | _ => True

variable {extended negated : Bool} {text rest : List Char} {token : Token}

theorem inOrder_of_withBounds {least : Nat} {most : Option Nat}
    (h : withBounds least most text = (token, rest))
    (hbounds : ∀ greatest ∈ most, least ≤ greatest) : token.InOrder := by
  unfold withBounds at h
  split at h <;> cases h <;> exact hbounds

theorem bounds?_le {least : Nat} {most : Option Nat} (h : bounds? text = some (least, most)) :
    ∀ greatest ∈ most, least ≤ greatest := by
  unfold bounds? at h
  split at h
  next =>
    split at h
    next =>
      cases h
      exact fun _ heq => Nat.le_of_eq (Option.some.inj heq)
    next => cases h
  next =>
    split at h
    next =>
      cases h
      exact nofun
    next => cases h
  next =>
    split at h
    next =>
      split at h
      next hbounds =>
        cases h
        exact fun _ heq => Option.some.inj heq ▸ hbounds.1
      next => cases h
    next => cases h
  next => cases h

theorem inOrder_of_scanCounted? (h : scanCounted? extended text = some (token, rest)) :
    token.InOrder := by
  obtain ⟨_, _, h⟩ := Option.bind_eq_some_iff.mp h
  obtain ⟨_, hbounds, heq⟩ := Option.map_eq_some_iff.mp h
  exact inOrder_of_withBounds heq (bounds?_le hbounds)

theorem inOrder_of_scanHex? {count : Nat} (h : scanHex? extended count text = some (token, rest)) :
    token.InOrder := by
  unfold scanHex? at h
  split at h
  next =>
    obtain ⟨_, _, h⟩ := Option.bind_eq_some_iff.mp h
    dsimp only at h
    split at h
    next => cases h
    next =>
      obtain ⟨_, _, heq⟩ := Option.map_eq_some_iff.mp h
      cases heq
      trivial
  next =>
    obtain ⟨_, _, h⟩ := Option.bind_eq_some_iff.mp h
    obtain ⟨_, _, heq⟩ := Option.map_eq_some_iff.mp h
    cases heq
    trivial

theorem inOrder_of_scanProperty? (h : scanProperty? extended negated text = some (token, rest)) :
    token.InOrder := by
  unfold scanProperty? at h
  split at h
  next =>
    obtain ⟨_, _, heq⟩ := Option.map_eq_some_iff.mp h
    cases heq
    trivial
  next =>
    split at h <;> cases h
    trivial
  next => cases h

theorem inOrder_of_scanBoundary? (h : scanBoundary? extended text = some (token, rest)) :
    token.InOrder := by
  unfold scanBoundary? at h
  split at h
  next =>
    split at h
    next => cases h
    next =>
      split at h
      next =>
        obtain ⟨_, _, h⟩ := Option.bind_eq_some_iff.mp h
        dsimp only at h
        split at h <;> cases h <;> trivial
      next =>
        cases h
        trivial
  next =>
    cases h
    trivial

theorem inOrder_of_scanEscape? (h : scanEscape? extended text = some (token, rest)) :
    token.InOrder := by
  cases text with
  | nil => cases h
  | cons c text =>
      simp only [scanEscape?] at h
      split at h
      case h_1 | h_2 | h_3 => exact inOrder_of_scanHex? h
      case h_4 | h_5 => exact inOrder_of_scanProperty? h
      case h_14 => exact inOrder_of_scanBoundary? h
      case h_24 =>
        split at h <;> cases h
        trivial
      all_goals
        cases h
        trivial

theorem inOrder_of_scanGroupName? (h : scanGroupName? text = some (token, rest)) :
    token.InOrder := by
  simp only [scanGroupName?] at h
  split at h
  next =>
    split at h <;> cases h
    trivial
  next => cases h

theorem inOrder_of_scanFlags? (h : scanFlags? text = some (token, rest)) : token.InOrder := by
  simp only [scanFlags?] at h
  split at h
  next =>
    obtain ⟨_, _, heq⟩ := Option.map_eq_some_iff.mp h
    cases heq
    trivial
  next =>
    split at h
    next => cases h
    next =>
      obtain ⟨_, _, heq⟩ := Option.map_eq_some_iff.mp h
      cases heq
      trivial
  next => cases h

theorem inOrder_of_scanGroup? (h : scanGroup? extended text = some (token, rest)) :
    token.InOrder := by
  unfold scanGroup? at h
  split at h
  case h_1 | h_2 | h_3 | h_4 => cases h
  case h_5 | h_6 => exact inOrder_of_scanGroupName? h
  case h_7 => exact inOrder_of_scanFlags? h
  case h_8 =>
    cases h
    trivial

theorem inOrder_of_scanOpenClass (h : scanOpenClass extended text = (token, rest)) :
    token.InOrder := by
  simp only [scanOpenClass] at h
  split at h <;> cases h <;> trivial

theorem inOrder_of_scanOuter? (h : scanOuter? extended text = some (token, rest)) :
    token.InOrder := by
  cases text with
  | nil => cases h
  | cons c text =>
      simp only [scanOuter?] at h
      split at h
      case h_1 => exact inOrder_of_scanGroup? h
      case h_4 => exact inOrder_of_scanOpenClass (Option.some.inj h)
      case h_5 => exact inOrder_of_withBounds (Option.some.inj h) fun _ _ => Nat.zero_le _
      case h_6 | h_7 => exact inOrder_of_withBounds (Option.some.inj h) (fun _ h => by cases h)
      case h_8 => exact inOrder_of_scanCounted? h
      case h_9 => exact inOrder_of_scanEscape? h
      all_goals
        cases h
        trivial

theorem inOrder_of_scanPosix? (h : scanPosix? text = some (token, rest)) : token.InOrder := by
  simp only [scanPosix?] at h
  split at h
  next =>
    obtain ⟨_, _, heq⟩ := Option.map_eq_some_iff.mp h
    cases heq
    trivial
  next => cases h

theorem inOrder_of_scanClassItem? (h : scanClassItem? extended text = some (token, rest)) :
    token.InOrder := by
  unfold scanClassItem? at h
  split at h
  next => cases h
  next =>
    split at h
    next => cases h
    next => exact inOrder_of_scanEscape? h
  next =>
    cases h
    trivial

theorem inOrder_of_scanRange? (h : scanRange? extended text = some (token, rest)) :
    token.InOrder := by
  obtain ⟨⟨first, _⟩, hfirst, h⟩ := Option.bind_eq_some_iff.mp h
  dsimp only at h
  split at h
  next =>
    split at h
    next =>
      cases h
      exact inOrder_of_scanClassItem? hfirst
    next =>
      obtain ⟨⟨last, _⟩, _, h⟩ := Option.bind_eq_some_iff.mp h
      dsimp only at h
      split at h
      next =>
        split at h <;> cases h
        trivial
      next => cases h
  next =>
    cases h
    exact inOrder_of_scanClassItem? hfirst

theorem inOrder_of_scanInner? (h : scanInner? extended text = some (token, rest)) :
    token.InOrder := by
  unfold scanInner? at h
  split at h
  case h_1 =>
    split at h
    next =>
      rcases Option.or_eq_some_iff.mp h with h | ⟨-, h⟩
      · exact inOrder_of_scanPosix? h
      · exact inOrder_of_scanOpenClass (Option.some.inj h)
    next => exact inOrder_of_scanOpenClass (Option.some.inj h)
  case h_6 => exact inOrder_of_scanRange? h
  all_goals
    cases h
    trivial

end Token

theorem Mode.inOrder_of_scan? {mode : Mode} {text rest : List Char} {token : Token}
    (h : mode.scan? text = some (token, rest)) : token.InOrder := by
  unfold Mode.scan? at h
  split at h
  · exact Token.inOrder_of_scanOuter? h
  · exact Token.inOrder_of_scanInner? h

theorem inOrder_of_mem_tokensFrom? {length : Nat} {mode : Mode} {text : List Char}
    {tokens : List Token} (hmode : mode.Verbatim)
    (htokens : ∀ token ∈ tokens, ⟨.extended, true⟩ ∉ token.changes)
    (h : tokensFrom? length mode text = some tokens) : ∀ token ∈ tokens, token.InOrder := by
  induction length generalizing mode text tokens with
  | zero =>
      cases text with
      | nil =>
          obtain ⟨-, -, rfl⟩ := (tokensFrom?_nil hmode.extended_eq).mp h
          exact nofun
      | cons c text =>
          rw [tokensFrom?_zero_cons hmode.extended_eq] at h
          cases h
  | succ length ih =>
      cases text with
      | nil =>
          obtain ⟨-, -, rfl⟩ := (tokensFrom?_nil hmode.extended_eq).mp h
          exact nofun
      | cons c text =>
          obtain ⟨token, rest, mode', after, hscan, hnext, hrest, rfl⟩ :=
            (tokensFrom?_succ_cons_iff hmode.extended_eq).mp h
          obtain ⟨htoken, hafter⟩ := List.forall_mem_cons.mp htokens
          exact List.forall_mem_cons.mpr
            ⟨mode.inOrder_of_scan? hscan, ih (hmode.next? htoken hnext) hafter hrest⟩

/-- A tree without assertions, with the bounds of its repetitions in order. -/
inductive Tree.Plain : Tree → Prop
  | literal {letter : Letter} : Plain (.literal letter)
  | dot : Plain .dot
  | shorthand {name : Shorthand} {negated : Bool} : Plain (.shorthand name negated)
  | property {name : List Char} {negated : Bool} : Plain (.property name negated)
  | bracket {negated : Bool} {body : ClassTree} : Plain (.bracket negated body)
  | flags {changes : List FlagChange} : Plain (.flags changes)
  | group {opening : Opening} {body : Tree} (hbody : Plain body) : Plain (.group opening body)
  | repeated {body : Tree} {least : Nat} {most : Option Nat} {lazily : Bool} (hbody : Plain body)
      (hbounds : ∀ greatest ∈ most, least ≤ greatest) : Plain (.repeated body least most lazily)
  | concat {items : List Tree} (hitems : ∀ item ∈ items, Plain item) : Plain (.concat items)
  | alternation {branches : List Tree} (hbranches : ∀ branch ∈ branches, Plain branch) :
      Plain (.alternation branches)

theorem Tree.plain_ofItems {items : List Tree} (h : ∀ item ∈ items, item.Plain) :
    (Tree.ofItems items).Plain := by
  unfold Tree.ofItems
  split
  next item => exact h item List.mem_cons_self
  next => exact .concat h

theorem Tree.plain_ofBranches {branches : List Tree} (h : ∀ branch ∈ branches, branch.Plain) :
    (Tree.ofBranches branches).Plain := by
  unfold Tree.ofBranches
  split
  next branch => exact h branch List.mem_cons_self
  next => exact .alternation h

structure OpenBranches.Plain (branches : OpenBranches) : Prop where
  finished : ∀ branch ∈ branches.finished, branch.Plain
  reversed : ∀ item ∈ branches.reversed, item.Plain

namespace OpenBranches

variable {branches branches' : OpenBranches}

theorem Plain.start : Plain .start := ⟨nofun, nofun⟩

theorem Plain.push (h : branches.Plain) {item : Tree} (hitem : item.Plain) :
    (branches.push item).Plain :=
  ⟨h.finished, List.forall_mem_cons.mpr ⟨hitem, h.reversed⟩⟩

theorem Plain.bar (h : branches.Plain) : branches.bar.Plain := by
  refine ⟨List.forall_mem_cons.mpr ⟨Tree.plain_ofItems fun item hitem => ?_, h.finished⟩, nofun⟩
  exact h.reversed item (List.mem_reverse.mp hitem)

theorem Plain.tree (h : branches.Plain) : branches.tree.Plain :=
  Tree.plain_ofBranches fun branch hbranch => h.bar.finished branch (List.mem_reverse.mp hbranch)

theorem Plain.quantify? (h : branches.Plain) {least : Nat} {most : Option Nat} {lazily : Bool}
    (hbounds : ∀ greatest ∈ most, least ≤ greatest)
    (hquantify : branches.quantify? least most lazily = some branches') : branches'.Plain := by
  unfold OpenBranches.quantify? at hquantify
  split at hquantify
  next => cases hquantify
  next => cases hquantify
  next item reversed _ hreversed =>
    cases hquantify
    obtain ⟨hitem, hitems⟩ := List.forall_mem_cons.mp (hreversed ▸ h.reversed)
    exact ⟨h.finished, List.forall_mem_cons.mpr ⟨.repeated hitem hbounds, hitems⟩⟩

end OpenBranches

structure Reading.Plain (reading : Reading) : Prop where
  groups : ∀ group ∈ reading.groups, group.2.Plain
  branches : reading.branches.Plain

namespace Reading

variable {reading reading' : Reading} {token : Token}

theorem Plain.innerStep? (h : reading.Plain) {cls : OpenClass} {classes : List OpenClass}
    (hstep : reading.innerStep? cls classes token = some reading') : reading'.Plain := by
  cases token with
  | closeClass =>
      cases classes with
      | nil =>
          cases hstep
          exact ⟨h.groups, h.branches.push .bracket⟩
      | cons =>
          cases hstep
          exact ⟨h.groups, h.branches⟩
  | _ => cases hstep <;> exact ⟨h.groups, h.branches⟩

theorem Plain.outerStep? (h : reading.Plain) (htoken : token.Plain) (horder : token.InOrder)
    (hstep : reading.outerStep? token = some reading') : reading'.Plain := by
  cases token with
  | anchor anchor => exact absurd rfl (htoken.no_anchor anchor)
  | quantifier least most lazily =>
      obtain ⟨branches, hbranches, rfl⟩ := Option.map_eq_some_iff.mp hstep
      exact ⟨h.groups, h.branches.quantify? horder hbranches⟩
  | bar =>
      cases hstep
      exact ⟨h.groups, h.branches.bar⟩
  | openGroup opening =>
      simp only [Reading.outerStep?] at hstep
      split at hstep <;> cases hstep
      exact ⟨List.forall_mem_cons.mpr ⟨h.branches, h.groups⟩, .start⟩
  | closeGroup =>
      obtain ⟨groups, branches, classes, names⟩ := reading
      cases groups with
      | nil => cases hstep
      | cons group groups =>
          cases hstep
          obtain ⟨hgroup, hgroups⟩ := List.forall_mem_cons.mp h.groups
          exact ⟨hgroups, hgroup.push (.group h.branches.tree)⟩
  | openClass =>
      cases hstep
      exact ⟨h.groups, h.branches⟩
  | literal | dot | shorthand | property | flags =>
      cases hstep
      exact ⟨h.groups, h.branches.push (by constructor)⟩
  | _ => cases hstep

theorem Plain.foldlM_step? {tokens : List Token} (h : reading.Plain)
    (htokens : ∀ token ∈ tokens, token.Plain ∧ token.InOrder)
    (hfold : tokens.foldlM step? reading = some reading') : reading'.Plain := by
  induction tokens generalizing reading with
  | nil =>
      cases hfold
      exact h
  | cons token tokens ih =>
      obtain ⟨middle, hstep, hrest⟩ := Option.bind_eq_some_iff.mp hfold
      obtain ⟨⟨htoken, horder⟩, htokens⟩ := List.forall_mem_cons.mp htokens
      refine ih ?_ htokens hrest
      obtain ⟨groups, branches, classes, names⟩ := reading
      cases classes with
      | nil => exact h.outerStep? htoken horder hstep
      | cons => exact h.innerStep? hstep

end Reading

namespace Tree

variable [Engine] {flags flags' : Flags} {tree : Tree} {term : Term}

theorem plain_of_mem_terms? {trees : List Tree} {terms : List Term}
    (h : ∀ tree ∈ trees, ∀ flags term flags', tree.term? flags = some (term, flags') → term.Plain)
    (hterms : terms? flags trees = some (terms, flags')) : ∀ term ∈ terms, term.Plain := by
  induction trees generalizing flags terms with
  | nil =>
      cases hterms
      exact nofun
  | cons tree trees ih =>
      obtain ⟨htree, htrees⟩ := List.forall_mem_cons.mp h
      obtain ⟨term, between, rest, hterm, hrest, rfl⟩ := terms?_cons_eq_some_iff.mp hterms
      exact List.forall_mem_cons.mpr ⟨htree _ _ _ hterm, ih htrees hrest⟩

theorem Plain.term? (h : tree.Plain) :
    ∀ flags term flags', tree.term? flags = some (term, flags') → term.Plain := by
  induction h with
  | literal | dot | shorthand | property | bracket =>
      intro flags term flags' hterm
      obtain ⟨_, _, heq⟩ := Option.map_eq_some_iff.mp hterm
      cases heq
      exact .chars
  | flags =>
      intro flags term flags' hterm
      cases hterm
      exact .empty
  | @group opening body _ ih =>
      intro flags term flags' hterm
      obtain ⟨⟨term, _⟩, hbody, heq⟩ := Option.map_eq_some_iff.mp hterm
      have hplain := ih _ _ _ hbody
      cases opening <;> cases heq
      · exact .capture hplain
      · exact hplain
  | repeated _ hbounds ih =>
      intro flags term flags' hterm
      obtain ⟨_, hbody, heq⟩ := Option.map_eq_some_iff.mp hterm
      cases heq
      exact .repeated (ih _ _ _ hbody) hbounds
  | concat _ ih =>
      intro flags term flags' hterm
      obtain ⟨_, hterms, heq⟩ := Option.map_eq_some_iff.mp hterm
      cases heq
      exact .concat (plain_of_mem_terms? ih hterms)
  | alternation _ ih =>
      intro flags term flags' hterm
      obtain ⟨_, hterms, heq⟩ := Option.map_eq_some_iff.mp hterm
      cases heq
      exact .alternation (plain_of_mem_terms? ih hterms)

end Tree

/-- A pattern text that uses no assertions and does not start extended mode. -/
def IsPlain (text : List Char) : Prop :=
  ∀ tokens, tokens? text = some tokens → ∀ token ∈ tokens, token.Plain

theorem IsPlain.tree {text : List Char} {tree : Tree} (hplain : IsPlain text)
    (h : Tree.ofText? text = some tree) : tree.Plain := by
  obtain ⟨tokens, reading, htokens, hfold, htree⟩ := Tree.ofText?_eq_some_iff.mp h
  obtain ⟨-, -, rfl⟩ := Reading.tree?_eq_some_iff.mp htree
  have hall := hplain tokens htokens
  have horder := inOrder_of_mem_tokensFrom? Mode.verbatim_start
    (fun token htoken => (hall token htoken).no_extended) htokens
  have hstart : Reading.start.Plain := ⟨nofun, .start⟩
  have hreading := hstart.foldlM_step?
    (fun token htoken => ⟨hall token htoken, horder token htoken⟩) hfold
  exact hreading.branches.tree

end FieldRules.Pattern
