import FieldRules.Proofs.Value.Grammar
import FieldRules.Proofs.Value.RoundTrip
import FieldRules.Rule

namespace FieldRules

namespace Unicode

variable {text core : List Char}

/-- Whether a text is `core` with blanks around it, all the blanks at its ends. -/
structure Trims (text core : List Char) : Prop where
  around : ∃ left right, (∀ c ∈ left, isBlank c = true) ∧ (∀ c ∈ right, isBlank c = true) ∧
    text = left ++ (core ++ right)
  first : ∀ c, core.head? = some c → isBlank c = false
  last : ∀ c, core.getLast? = some c → isBlank c = false

theorem dropWhile_isBlank_eq_self (h : ∀ c, text.head? = some c → isBlank c = false) :
    text.dropWhile isBlank = text := by
  cases text with
  | nil => rfl
  | cons c text => exact List.dropWhile_cons_of_neg (by simp [h c rfl])

theorem isBlank_head_dropWhile {c : Char} (h : (text.dropWhile isBlank).head? = some c) :
    isBlank c = false := by
  have hnot := List.head?_dropWhile_not isBlank text
  rwa [h] at hnot

theorem trim_eq_of_trims (h : Trims text core) : trim text = core := by
  obtain ⟨⟨left, right, hleft, hright, rfl⟩, hfirst, hlast⟩ := h
  rw [trim, List.dropWhile_append_of_pos hleft]
  cases core with
  | nil =>
      have hdrop := @List.dropWhile_append_of_pos _ _ right [] hright
      rw [List.append_nil] at hdrop
      rw [List.nil_append, hdrop]
      rfl
  | cons c core =>
      have hblank : ∀ d ∈ right.reverse, isBlank d = true := by simpa using hright
      have hself : (c :: core ++ right).dropWhile isBlank = c :: core ++ right :=
        dropWhile_isBlank_eq_self fun d hd => hfirst d hd
      rw [hself, List.reverse_append, List.dropWhile_append_of_pos hblank,
        dropWhile_isBlank_eq_self (by rwa [List.head?_reverse]), List.reverse_reverse]

theorem isBlank_of_mem_takeWhile {c : Char} (h : c ∈ text.takeWhile isBlank) : isBlank c = true :=
  List.all_eq_true.mp List.all_takeWhile c h

theorem trims_trim (text : List Char) : Trims text (trim text) := by
  have hrest : text.dropWhile isBlank =
      trim text ++ ((text.dropWhile isBlank).reverse.takeWhile isBlank).reverse := by
    rw [trim, ← List.reverse_append, List.takeWhile_append_dropWhile, List.reverse_reverse]
  constructor
  · refine ⟨text.takeWhile isBlank, ((text.dropWhile isBlank).reverse.takeWhile isBlank).reverse,
      fun _ => isBlank_of_mem_takeWhile, fun _ hc => ?_, ?_⟩
    · exact isBlank_of_mem_takeWhile (List.mem_reverse.mp hc)
    · rw [← hrest, List.takeWhile_append_dropWhile]
  · intro c hc
    apply @isBlank_head_dropWhile text
    rw [hrest, List.head?_append, hc]
    rfl
  · intro c hc
    rw [trim, List.getLast?_reverse] at hc
    exact isBlank_head_dropWhile hc

end Unicode

namespace RuleKind

theorem ofName?_name (kind : RuleKind) : ofName? kind.name = some kind := by
  cases kind <;> decide

theorem ofName?_eq_none {name : String} (h : ∀ kind : RuleKind, kind.name ≠ name) :
    ofName? name = none := by
  simpa [ofName?] using fun kind _ => h kind

end RuleKind

namespace Rule

variable {head name text : String} {kind : RuleKind} {rule : Rule}

def Heads (head text : String) : Prop :=
  ':' ∉ head.toList ∧ (text = head ∨ ∃ operand, text = head ++ ":" ++ operand)

theorem exists_heads (text : String) : ∃ head, Heads head text := by
  refine ⟨String.ofList (text.toList.takeWhile (· != ':')), ?_, ?_⟩
  · rw [String.toList_ofList]
    intro hmem
    have hne := List.all_eq_true.mp List.all_takeWhile ':' hmem
    exact bne_iff_ne.mp hne rfl
  · have hsplit : text.toList.takeWhile (· != ':') ++ text.toList.dropWhile (· != ':') =
        text.toList := List.takeWhile_append_dropWhile
    match hrest : text.toList.dropWhile (· != ':') with
    | [] =>
        left
        rw [hrest, List.append_nil] at hsplit
        rw [hsplit, String.ofList_toList]
    | c :: operand =>
        right
        have hstop := List.head?_dropWhile_not (· != ':') text.toList
        rw [hrest] at hstop hsplit
        obtain rfl : c = ':' := by simpa using hstop
        refine ⟨String.ofList operand, String.toList_inj.mp ?_⟩
        simp [hsplit]

/-- The kind that is named before the first colon of a rule text. -/
def headKind (head : String) : Except UsageError RuleKind :=
  let name := String.ofList (Unicode.trim head.toList)
  match RuleKind.ofName? name with
  | none => .error (.unsupportedRule name)
  | some kind => .ok kind

def ofRest (kind : RuleKind) : List Char → Rule
  | [] => ofKind kind
  | _ :: operand => (ofKind kind).withOperand (readOperand kind (String.ofList operand))

/-- A text is read by what comes before its first colon, and by what comes after it. -/
theorem ofText?_eq {rest : List Char} (hcolon : ':' ∉ head.toList)
    (htext : text.toList = head.toList ++ rest) (hrest : rest = [] ∨ rest.head? = some ':') :
    ofText? text = (headKind head).map (ofRest · rest) := by
  have hall : ∀ c ∈ head.toList, (c != ':') = true :=
    fun c hc => bne_iff_ne.mpr fun heq => hcolon (heq ▸ hc)
  have hstop : rest.takeWhile (· != ':') = [] ∧ rest.dropWhile (· != ':') = rest := by
    rcases hrest with rfl | hrest
    · exact ⟨rfl, rfl⟩
    · obtain ⟨operand, rfl⟩ := List.head?_eq_some_iff.mp hrest
      exact ⟨rfl, rfl⟩
  rw [ofText?, htext, List.takeWhile_append_of_pos hall, List.dropWhile_append_of_pos hall,
    hstop.1, hstop.2, List.append_nil, headKind]
  cases RuleKind.ofName? (String.ofList (Unicode.trim head.toList)) with
  | none => rfl
  | some kind => cases rest <;> rfl

theorem ofText?_head (hcolon : ':' ∉ head.toList) : ofText? head = (headKind head).map ofKind :=
  ofText?_eq hcolon (List.append_nil _).symm (.inl rfl)

theorem ofText?_operand (hcolon : ':' ∉ head.toList) (operand : String) :
    ofText? (head ++ ":" ++ operand) =
      (headKind head).map fun kind => (ofKind kind).withOperand (readOperand kind operand) := by
  have htext : (head ++ ":" ++ operand).toList = head.toList ++ ':' :: operand.toList := by simp
  rw [ofText?_eq hcolon htext (.inr rfl)]
  simp only [ofRest, String.ofList_toList]

theorem headKind_eq_ok (hname : Unicode.Trims head.toList kind.name.toList) :
    headKind head = .ok kind := by
  rw [headKind, Unicode.trim_eq_of_trims hname, String.ofList_toList, RuleKind.ofName?_name]

theorem headKind_eq_error (hname : Unicode.Trims head.toList name.toList)
    (hkind : ∀ kind : RuleKind, kind.name ≠ name) :
    headKind head = .error (.unsupportedRule name) := by
  rw [headKind, Unicode.trim_eq_of_trims hname, String.ofList_toList,
    RuleKind.ofName?_eq_none hkind]

theorem trims_name {left right : String} (kind : RuleKind)
    (hleft : ∀ c ∈ left.toList, Unicode.isBlank c = true)
    (hright : ∀ c ∈ right.toList, Unicode.isBlank c = true) :
    Unicode.Trims (left ++ kind.name ++ right).toList kind.name.toList := by
  refine ⟨⟨left.toList, right.toList, hleft, hright, by simp⟩, ?_, ?_⟩
  · intro c hc
    cases kind <;> cases hc <;> rfl
  · intro c hc
    cases kind <;> cases hc <;> rfl

theorem colon_not_mem_head {left right : String} (kind : RuleKind)
    (hleft : ∀ c ∈ left.toList, Unicode.isBlank c = true)
    (hright : ∀ c ∈ right.toList, Unicode.isBlank c = true) :
    ':' ∉ (left ++ kind.name ++ right).toList := by
  have hcolon : Unicode.isBlank ':' = false := by decide
  have hname : ':' ∉ kind.name.toList := by cases kind <;> decide
  intro hmem
  rw [String.toList_append, String.toList_append] at hmem
  rcases List.mem_append.mp hmem with hmem | hmem
  · rcases List.mem_append.mp hmem with hmem | hmem
    · exact Bool.false_ne_true (hcolon.symm.trans (hleft _ hmem))
    · exact hname hmem
  · exact Bool.false_ne_true (hcolon.symm.trans (hright _ hmem))

theorem Heads.ofText?_eq_error {e : UsageError} (hhead : Heads head text)
    (hkind : headKind head = .error e) : ofText? text = .error e := by
  obtain ⟨hcolon, rfl | ⟨operand, rfl⟩⟩ := hhead
  · rw [ofText?_head hcolon, hkind]
    rfl
  · rw [ofText?_operand hcolon, hkind]
    rfl

theorem Heads.exists_ofText?_eq_ok (hhead : Heads head text) (hkind : headKind head = .ok kind) :
    ∃ rule, ofText? text = .ok rule ∧ rule.kind = kind := by
  obtain ⟨hcolon, rfl | ⟨operand, rfl⟩⟩ := hhead
  · rw [ofText?_head hcolon, hkind]
    exact ⟨_, rfl, rfl⟩
  · rw [ofText?_operand hcolon, hkind]
    exact ⟨_, rfl, rfl⟩

theorem exists_ofText?_operand (hcolon : ':' ∉ head.toList) (hrule : ofText? head = .ok rule)
    (operand : String) :
    ∃ value, ofText? (head ++ ":" ++ operand) = .ok { rule with operand := some value } := by
  rw [ofText?_head hcolon] at hrule
  rw [ofText?_operand hcolon]
  cases hkind : headKind head with
  | error e =>
      rw [hkind] at hrule
      cases hrule
  | ok kind =>
      rw [hkind] at hrule
      cases hrule
      exact ⟨readOperand kind operand, rfl⟩

theorem readOperand_eq (hkind : kind ≠ .pattern) (text : String) :
    readOperand kind text = (Value.read? 127 text).getD (.str text) := by
  cases kind with
  | pattern => exact absurd rfl hkind
  | _ => rfl

/-- How the text of a rule is decoded whose kind is named between blanks: behind the colon a value
by its JSON text, every other text and every pattern as it stands. Only a name that names no kind
makes a text fail. -/
structure Decodes (kind : RuleKind) (left right : String) : Prop where
  value : kind ≠ .pattern → ∀ value : Value, value.FloatFree → value.NamesDistinct →
    value.depth ≤ 127 → ofText? (left ++ kind.name ++ right ++ ":" ++ value.text) =
      .ok ⟨kind, some value, .default⟩
  other : kind ≠ .pattern → ∀ text : String,
    ¬ Value.IsJson text.toList ∨ Value.read? 127 text = none →
      ofText? (left ++ kind.name ++ right ++ ":" ++ text) = .ok ⟨kind, some (.str text), .default⟩
  text_ne : ∀ a b : Value, a.FloatFree → a.NamesDistinct → b.FloatFree → b.NamesDistinct →
    a ≠ b → a.text ≠ b.text
  pattern : kind = .pattern → ∀ text, ofText? (left ++ kind.name ++ right ++ ":" ++ text) =
    .ok ⟨kind, some (.str text), .default⟩
  noOperand : ofText? (left ++ kind.name ++ right) = .ok ⟨kind, none, .default⟩
  head : ∀ text, ∃ head name : String, Heads head text ∧
    Unicode.Trims head.toList name.toList ∧
      ((∀ kind : RuleKind, kind.name ≠ name) → ofText? text = .error (.unsupportedRule name)) ∧
      ∀ kind : RuleKind, kind.name = name → ∃ rule, ofText? text = .ok rule ∧ rule.kind = kind
  operand : ∀ head operand rule, ':' ∉ head.toList → ofText? head = .ok rule →
    ∃ value, ofText? (head ++ ":" ++ operand) = .ok { rule with operand := some value }

theorem ofText?_decodes (kind : RuleKind) (left right : String)
    (hleft : ∀ c ∈ left.toList, Unicode.isBlank c = true)
    (hright : ∀ c ∈ right.toList, Unicode.isBlank c = true) : Decodes kind left right := by
  have hcolon := colon_not_mem_head kind hleft hright
  have hkind := headKind_eq_ok (trims_name kind hleft hright)
  have hdecode (text : String) : ofText? (left ++ kind.name ++ right ++ ":" ++ text) =
      .ok ⟨kind, some (readOperand kind text), .default⟩ := by
    rw [ofText?_operand hcolon, hkind]
    rfl
  constructor
  case value =>
    intro hpattern value hfloat hnames hdepth
    rw [hdecode, readOperand_eq hpattern, Value.read?_text hfloat hnames hdepth]
    rfl
  case other =>
    intro hpattern text hread
    have hnone : Value.read? 127 text = none := hread.elim Value.read?_eq_none id
    rw [hdecode, readOperand_eq hpattern, hnone]
    rfl
  case text_ne =>
    intro a b ha ha' hb hb' hne
    exact mt (Value.text_inj ha ha' hb hb').mp hne
  case pattern =>
    rintro rfl text
    exact hdecode text
  case noOperand =>
    rw [ofText?_head hcolon, hkind]
    rfl
  case head =>
    intro text
    obtain ⟨head, hhead⟩ := exists_heads text
    have htrims : Unicode.Trims head.toList (String.ofList (Unicode.trim head.toList)).toList := by
      rw [String.toList_ofList]
      exact Unicode.trims_trim _
    refine ⟨head, _, hhead, htrims,
      fun hnone => hhead.ofText?_eq_error (headKind_eq_error htrims hnone), fun kind hname => ?_⟩
    rw [← hname] at htrims
    exact hhead.exists_ofText?_eq_ok (headKind_eq_ok htrims)
  case operand =>
    intro head operand rule hcolon hrule
    exact exists_ofText?_operand hcolon hrule operand

theorem ofText?_decodes_object :
    let items := Value.arr [.num (.int (-2) (by decide) (by decide)), .null, .bool true]
    let operand := Value.obj [("a\n\"", items), ("b", .str "\x00\\")]
    operand.FloatFree ∧ operand.NamesDistinct ∧ operand.depth ≤ 127 ∧
      ofText? ("\t" ++ RuleKind.equalTo.name ++ "\u2003" ++ ":" ++ operand.text) =
        .ok ⟨.equalTo, some operand, .default⟩ := by
  intro items operand
  have hfloat : operand.FloatFree := by
    refine .obj (List.forall_mem_cons.mpr ⟨.arr ?_, List.forall_mem_singleton.mpr (.str _)⟩)
    exact List.forall_mem_cons.mpr
      ⟨.int _ _ _, List.forall_mem_cons.mpr ⟨.null, List.forall_mem_singleton.mpr (.bool true)⟩⟩
  have hnames : operand.NamesDistinct := by
    simp [operand, items, Value.NamesDistinct, Value.ItemsNamesDistinct,
      Value.MembersNamesDistinct]
  have hdepth : operand.depth ≤ 127 := by decide
  have hdecodes := ofText?_decodes .equalTo "\t" "\u2003"
    (List.forall_mem_singleton.mpr rfl) (List.forall_mem_singleton.mpr rfl)
  exact ⟨hfloat, hnames, hdepth, hdecodes.value (by decide) operand hfloat hnames hdepth⟩

end Rule

end FieldRules
