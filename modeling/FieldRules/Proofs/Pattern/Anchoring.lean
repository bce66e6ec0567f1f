import FieldRules.Pattern
import FieldRules.Proofs.Pattern.Scanning

namespace FieldRules.Pattern

/-- A text put between `^(?:` and `)$`. -/
def anchored (text : List Char) : List Char := ['^', '(', '?', ':'] ++ text ++ ending

def Token.changes : Token → List FlagChange
  | .openGroup opening => opening.changes
  | .flags changes => changes
  | _ => []

/-- A token that is no assertion and does not start extended mode. -/
structure Token.Plain (token : Token) : Prop where
  no_anchor : ∀ anchor, token ≠ .anchor anchor
  no_extended : ⟨.extended, true⟩ ∉ token.changes

namespace Mode

variable {mode mode' : Mode} {token : Token}

/-- Outside of extended mode, where no group gives it back. -/
structure Verbatim (mode : Mode) : Prop where
  extended_eq : mode.extended = false
  outer_eq : ∀ extended ∈ mode.outer, extended = false

def within (mode : Mode) : Mode := { mode with outer := mode.outer ++ [false] }

theorem verbatim_start : start.Verbatim := ⟨rfl, nofun⟩

theorem Verbatim.eq_start (h : mode.Verbatim) (houter : mode.outer = [])
    (hclasses : mode.classes = 0) : mode = start := by
  obtain ⟨extended, outer, classes⟩ := mode
  obtain rfl : extended = false := h.extended_eq
  subst houter hclasses
  rfl

theorem Verbatim.local_scan? (h : mode.Verbatim) : Local mode.scan? := by
  unfold scan?
  rw [h.extended_eq]
  split
  · exact Token.local_scanOuter?
  · exact Token.local_scanInner?

theorem Verbatim.change (h : mode.Verbatim) {changes : List FlagChange}
    (hchanges : ⟨.extended, true⟩ ∉ changes) : (mode.change changes).Verbatim := by
  unfold Mode.change
  split
  next change hfind =>
    obtain ⟨flag, on⟩ := change
    have hflag := List.find?_some hfind
    obtain rfl : flag = .extended := eq_of_beq hflag
    cases on with
    | false => exact ⟨rfl, h.outer_eq⟩
    | true => exact absurd (List.mem_of_find?_eq_some hfind) hchanges
  next => exact h

theorem Verbatim.next? (h : mode.Verbatim) (htoken : ⟨.extended, true⟩ ∉ token.changes)
    (hnext : mode.next? token = some mode') : mode'.Verbatim := by
  cases token with
  | openGroup opening =>
      cases hnext
      apply Verbatim.change _ htoken
      exact ⟨h.extended_eq, List.forall_mem_cons.mpr ⟨h.extended_eq, h.outer_eq⟩⟩
  | flags changes =>
      cases hnext
      exact h.change htoken
  | closeGroup =>
      obtain ⟨extended, outer, classes⟩ := mode
      cases outer with
      | nil => cases hnext
      | cons given outer =>
          cases hnext
          obtain ⟨hgiven, houter⟩ := List.forall_mem_cons.mp h.outer_eq
          exact ⟨hgiven, houter⟩
  | openClass | closeClass =>
      cases hnext
      exact ⟨h.extended_eq, h.outer_eq⟩
  | _ =>
      cases hnext
      exact h

theorem change_within (mode : Mode) (changes : List FlagChange) :
    mode.within.change changes = (mode.change changes).within := by
  unfold change
  split <;> rfl

theorem next?_within (hnext : mode.next? token = some mode') :
    mode.within.next? token = some mode'.within := by
  cases token with
  | openGroup opening =>
      cases hnext
      exact congrArg some (change_within ⟨mode.extended, mode.extended :: mode.outer, mode.classes⟩ _)
  | flags changes =>
      cases hnext
      exact congrArg some (change_within mode changes)
  | closeGroup =>
      obtain ⟨extended, outer, classes⟩ := mode
      cases outer with
      | nil => cases hnext
      | cons given outer =>
          cases hnext
          rfl
  | _ =>
      cases hnext
      rfl

end Mode

variable {length : Nat} {mode : Mode} {text : List Char} {tokens : List Token}

theorem tokensFrom?_nil (hmode : mode.extended = false) :
    tokensFrom? length mode [] = some tokens ↔ mode.outer = [] ∧ mode.classes = 0 ∧ tokens = [] := by
  obtain ⟨extended, outer, classes⟩ := mode
  obtain rfl : extended = false := hmode
  unfold tokensFrom?
  simp [eq_comm (a := ([] : List Token)), and_assoc]

theorem tokensFrom?_zero_cons (hmode : mode.extended = false) (c : Char) :
    tokensFrom? 0 mode (c :: text) = none := by
  obtain ⟨extended, outer, classes⟩ := mode
  obtain rfl : extended = false := hmode
  rfl

theorem tokensFrom?_succ_cons (hmode : mode.extended = false) (c : Char) :
    tokensFrom? (length + 1) mode (c :: text) = (do
      let (token, rest) ← mode.scan? (c :: text)
      let mode ← mode.next? token
      let tokens ← tokensFrom? length mode rest
      return token :: tokens) := by
  obtain ⟨extended, outer, classes⟩ := mode
  obtain rfl : extended = false := hmode
  rfl

theorem tokensFrom?_succ_cons_iff (hmode : mode.extended = false) {c : Char} :
    tokensFrom? (length + 1) mode (c :: text) = some tokens ↔
      ∃ token rest mode' more, mode.scan? (c :: text) = some (token, rest) ∧
        mode.next? token = some mode' ∧ tokensFrom? length mode' rest = some more ∧
          token :: more = tokens := by
  rw [tokensFrom?_succ_cons hmode]
  simp [Option.bind_eq_some_iff]

/-- The group around a text and the text itself end together. -/
theorem tokensFrom?_ending (more : Nat) :
    tokensFrom? (more + 2) Mode.start.within ending = some [.closeGroup, .anchor .lineEnd] := by
  have hend : tokensFrom? more Mode.start [] = some [] :=
    (tokensFrom?_nil rfl).mpr ⟨rfl, rfl, rfl⟩
  have hdollar : tokensFrom? (more + 1) Mode.start ['$'] = some [.anchor .lineEnd] :=
    (tokensFrom?_succ_cons_iff rfl).mpr ⟨_, _, _, _, rfl, rfl, hend, rfl⟩
  exact (tokensFrom?_succ_cons_iff rfl).mpr ⟨_, _, _, _, rfl, rfl, hdollar, rfl⟩

theorem tokensFrom?_nil_append_ending (hmode : mode.Verbatim)
    (h : tokensFrom? length mode [] = some tokens) (more : Nat) :
    tokensFrom? (more + 2) mode.within ([] ++ ending) =
      some (tokens ++ [.closeGroup, .anchor .lineEnd]) := by
  obtain ⟨houter, hclasses, rfl⟩ := (tokensFrom?_nil hmode.extended_eq).mp h
  rw [hmode.eq_start houter hclasses]
  exact tokensFrom?_ending more

theorem tokensFrom?_append_ending (hmode : mode.Verbatim)
    (htokens : ∀ token ∈ tokens, ⟨.extended, true⟩ ∉ token.changes)
    (h : tokensFrom? length mode text = some tokens) (more : Nat) :
    tokensFrom? (length + more + 2) mode.within (text ++ ending) =
      some (tokens ++ [.closeGroup, .anchor .lineEnd]) := by
  induction length generalizing mode text tokens with
  | zero =>
      cases text with
      | nil => exact tokensFrom?_nil_append_ending hmode h _
      | cons c text =>
          rw [tokensFrom?_zero_cons hmode.extended_eq] at h
          cases h
  | succ length ih =>
      cases text with
      | nil => exact tokensFrom?_nil_append_ending hmode h _
      | cons c text =>
          obtain ⟨token, rest, mode', after, hscan, hnext, hrest, rfl⟩ :=
            (tokensFrom?_succ_cons_iff hmode.extended_eq).mp h
          obtain ⟨htoken, hafter⟩ := List.forall_mem_cons.mp htokens
          have ih := ih (hmode.next? htoken hnext) hafter hrest
          have hwithin : mode.within.extended = false := hmode.extended_eq
          have hlength : length + 1 + more + 2 = length + more + 2 + 1 := by omega
          rw [hlength, List.cons_append, tokensFrom?_succ_cons_iff hwithin]
          refine ⟨token, rest ++ ending, mode'.within, _, ?_, mode.next?_within hnext, ih, rfl⟩
          exact hmode.local_scan? _ _ _ hscan

theorem tokens?_anchored (htokens : ∀ token ∈ tokens, ⟨.extended, true⟩ ∉ token.changes)
    (h : tokens? text = some tokens) :
    tokens? (anchored text) =
      some (.anchor .lineStart :: .openGroup (.plain []) ::
        (tokens ++ [.closeGroup, .anchor .lineEnd])) := by
  have hinner := tokensFrom?_append_ending Mode.verbatim_start htokens h 2
  have hlength : (anchored text).length = text.length + 2 + 2 + 1 + 1 := by
    simp [anchored, ending]
  rw [tokens?, hlength]
  have hgroup : tokensFrom? (text.length + 2 + 2 + 1) Mode.start
      (['(', '?', ':'] ++ text ++ ending) = _ :=
    (tokensFrom?_succ_cons_iff rfl).mpr ⟨_, _, _, _, rfl, rfl, hinner, rfl⟩
  exact (tokensFrom?_succ_cons_iff rfl).mpr ⟨_, _, _, _, rfl, rfl, hgroup, rfl⟩

namespace Reading

variable {reading reading' : Reading} {token : Token} {around : Opening × OpenBranches}

def within (reading : Reading) (around : Opening × OpenBranches) : Reading :=
  { reading with groups := reading.groups ++ [around] }

theorem innerStep?_within {cls : OpenClass} {classes : List OpenClass}
    (h : reading.innerStep? cls classes token = some reading') :
    (reading.within around).innerStep? cls classes token = some (reading'.within around) := by
  cases token with
  | closeClass => cases classes <;> cases h <;> rfl
  | _ => cases h <;> rfl

theorem outerStep?_within (h : reading.outerStep? token = some reading') :
    (reading.within around).outerStep? token = some (reading'.within around) := by
  cases token with
  | quantifier least most lazily =>
      obtain ⟨branches, hbranches, rfl⟩ := Option.map_eq_some_iff.mp h
      exact Option.map_eq_some_iff.mpr ⟨branches, hbranches, rfl⟩
  | openGroup opening =>
      simp only [outerStep?] at h ⊢
      split at h
      next hnames =>
        cases h
        exact if_pos hnames
      next => cases h
  | closeGroup =>
      obtain ⟨groups, branches, classes, names⟩ := reading
      cases groups with
      | nil => cases h
      | cons =>
          cases h
          rfl
  | _ => cases h <;> rfl

theorem step?_within (h : reading.step? token = some reading') :
    (reading.within around).step? token = some (reading'.within around) := by
  obtain ⟨groups, branches, classes, names⟩ := reading
  cases classes with
  | nil => exact outerStep?_within h
  | cons cls classes => exact innerStep?_within h

theorem foldlM_step?_within {tokens : List Token}
    (h : tokens.foldlM step? reading = some reading') :
    tokens.foldlM step? (reading.within around) = some (reading'.within around) := by
  induction tokens generalizing reading with
  | nil =>
      cases h
      rfl
  | cons token tokens ih =>
      obtain ⟨middle, hstep, hrest⟩ := Option.bind_eq_some_iff.mp h
      exact Option.bind_eq_some_iff.mpr ⟨_, step?_within hstep, ih hrest⟩

end Reading

variable {tree : Tree} {term : Term}

def Tree.anchored (tree : Tree) : Tree :=
  .concat [.anchor .lineStart, .group (.plain []) tree, .anchor .lineEnd]

theorem Tree.ofText?_eq_some_iff :
    Tree.ofText? text = some tree ↔
      ∃ tokens reading, tokens? text = some tokens ∧
        tokens.foldlM Reading.step? Reading.start = some reading ∧ reading.tree? = some tree := by
  simp [Tree.ofText?, Option.bind_eq_some_iff]

theorem Reading.tree?_eq_some_iff {reading : Reading} :
    reading.tree? = some tree ↔
      reading.groups = [] ∧ reading.classes = [] ∧ reading.branches.tree = tree := by
  obtain ⟨groups, branches, classes, names⟩ := reading
  cases groups <;> cases classes <;> simp [Reading.tree?]

/-- What is read from `^(?:p)$` is what is read from `p`, in a group of its own between two
assertions. -/
theorem Tree.ofText?_anchored
    (htokens : ∀ tokens, tokens? text = some tokens →
      ∀ token ∈ tokens, ⟨.extended, true⟩ ∉ token.changes)
    (h : Tree.ofText? text = some tree) :
    Tree.ofText? (Pattern.anchored text) = some tree.anchored := by
  obtain ⟨tokens, reading, hscan, hfold, htree⟩ := Tree.ofText?_eq_some_iff.mp h
  obtain ⟨hgroups, hclasses, hbranches⟩ := Reading.tree?_eq_some_iff.mp htree
  obtain ⟨groups, branches, classes, names⟩ := reading
  obtain rfl : groups = [] := hgroups
  obtain rfl : classes = [] := hclasses
  obtain rfl : branches.tree = tree := hbranches
  have hinner : tokens.foldlM Reading.step?
      (Reading.start.within (.plain [], ⟨[], [.anchor .lineStart]⟩)) = _ :=
    Reading.foldlM_step?_within hfold
  have hbody : (tokens ++ [Token.closeGroup, .anchor .lineEnd]).foldlM Reading.step?
      (Reading.start.within (.plain [], ⟨[], [.anchor .lineStart]⟩)) =
      some ⟨[], ⟨[], [.anchor .lineEnd, .group (.plain []) branches.tree, .anchor .lineStart]⟩, [],
        names⟩ := by
    rw [List.foldlM_append]
    exact Option.bind_eq_some_iff.mpr ⟨_, hinner, rfl⟩
  exact Tree.ofText?_eq_some_iff.mpr ⟨_, _, tokens?_anchored (htokens tokens hscan) hscan,
    Option.bind_eq_some_iff.mpr ⟨_, rfl, Option.bind_eq_some_iff.mpr ⟨_, rfl, hbody⟩⟩, rfl⟩

/-- The term of an anchored text: its own assertions are about the ends of the text, not of a
line. -/
def Term.anchored (term : Term) : Term :=
  .concat [.look .textStart, term, .look .textEnd]

variable [Engine]

theorem Tree.terms?_cons_eq_some_iff {flags flags' : Flags} {trees : List Tree}
    {terms : List Term} :
    Tree.terms? flags (tree :: trees) = some (terms, flags') ↔
      ∃ term between rest, tree.term? flags = some (term, between) ∧
        Tree.terms? between trees = some (rest, flags') ∧ term :: rest = terms := by
  simp [Tree.terms?, Option.bind_eq_some_iff]

theorem Tree.term?_anchored {flags : Flags} (h : tree.term? Flags.initial = some (term, flags)) :
    tree.anchored.term? Flags.initial = some (term.anchored, Flags.initial) := by
  have hgroup : (Tree.group (.plain []) tree).term? Flags.initial = some (term, Flags.initial) :=
    Option.map_eq_some_iff.mpr ⟨_, h, rfl⟩
  have hterms : Tree.terms? Flags.initial
      [.anchor .lineStart, .group (.plain []) tree, .anchor .lineEnd] =
      some ([.look .textStart, term, .look .textEnd], Flags.initial) := by
    simp only [Tree.terms?_cons_eq_some_iff]
    exact ⟨_, _, _, rfl, ⟨_, _, _, hgroup, ⟨_, _, _, rfl, rfl, rfl⟩, rfl⟩, rfl⟩
  exact Option.map_eq_some_iff.mpr ⟨_, hterms, rfl⟩

end FieldRules.Pattern
