import RecordLens.Proofs.Accounting
import RecordLens.Proofs.Insertions
import RecordLens.Proofs.LineOrder
import RecordLens.Proofs.SecondRun
import RecordLens.Proofs.Weaving
/-!
Where declared classes stand among the lines of a text, and where their members go. As code is read, a
class goes from a token to a token on lines of code; members are put behind displayed lines. Where the
two ways of counting lines agree, the members of a class stand behind the line of its last token.

* `markedDefinitions_spans`: declared definitions are among the definitions of a module.
* `headerEnd_lt`: the place of the imports is above every definition.
* `Declaration.standsIn`: the tokens of a declaration, and the line that gives its indentation.
* `Expansion.putsBehind`: the members of every plan in the text of an expansion.
* `members_behind_classes`: lines of a module before and after its expansion.
-/
namespace RecordLens

open Code
open Code.Reading (lastSpan)

/-! ## Declared definitions -/

mutual

theorem markedIn_spans (outer : String) : ∀ s : Stmt,
    ((markedIn outer s).map (·.1.span)).Sublist (definitionSpansIn s)
  | .classDef span name decorators bases body => by
    have hbody := markedDefinitions_spans (qualify outer name) body
    rw [markedIn, definitionSpansIn, List.map_append]
    split
    · exact hbody.cons_cons span
    · exact hbody.cons span
  | .functionDef span isAsync name decorators params body => by
    rw [markedIn, definitionSpansIn]
    split
    · exact List.Sublist.refl [span]
    · exact List.nil_sublist _
  | .assign _ _ _ | .annotate _ _ _ _ | .importModules _ _ | .importFrom _ _ _ _
  | .evaluate _ _ | .compound _ _ | .simple _ => List.nil_sublist _

/-- The places of declared definitions are among those of all definitions, in their order. -/
theorem markedDefinitions_spans (outer : String) : ∀ ss : List Stmt,
    ((markedDefinitions outer ss).map (·.1.span)).Sublist (definitionSpans ss)
  | [] => List.Sublist.refl []
  | s :: ss => by
    rw [markedDefinitions, definitionSpans, List.map_append]
    exact (markedIn_spans outer s).append (markedDefinitions_spans outer ss)

end

/-- The statements of a definition. -/
def Code.Stmt.suite : Stmt → List Stmt
  | .classDef _ _ _ _ body | .functionDef _ _ _ _ _ body => body
  | _ => []

theorem location_of_ofDefinition {filename : String} {rule : IndentRule}
    {definition : Stmt × String} {d : Declaration}
    (h : Declaration.ofDefinition filename rule definition = .ok (some d)) :
    d.qualifiedName = definition.2 ∧ d.location.line = definition.1.span.line ∧
    d.location.endLine = definition.1.span.endLine ∧
    ∃ name, rule.indent filename definition.1.span name definition.1.suite = .ok d.location.indent := by
  rcases ofDefinition_cases h with ⟨_, _, _, _, _, _, _, _, hclass, hindent, -, -, rfl⟩ |
    ⟨_, _, _, _, _, _, _, hfunction, hindent, rfl⟩
  · rw [hclass]
    exact ⟨rfl, rfl, rfl, _, hindent⟩
  · rw [hfunction]
    exact ⟨rfl, rfl, rfl, _, hindent⟩

/-- The indentation of a body is that of the line on which its first statement begins. -/
theorem indent_of_suite {filename name indent : String} {head : Span} {lines : List String}
    {first : Stmt} {rest : List Stmt}
    (h : bodyIndent filename head name (first :: rest) lines = .ok indent) :
    indent = Text.leadingBlanks (lines.getD (first.span.line - 1) "") := by
  rw [bodyIndent] at h
  split at h
  · exact absurd h error_ne_ok
  · obtain rfl := Except.ok.inj h
    rw [List.getD_eq_getElem?_getD]
    cases lines[first.span.line - 1]? <;> rfl

theorem exists_definition {filename : String} {rule : IndentRule} {tree : List Stmt}
    {ds : List Declaration} (h : Declaration.ofModule filename rule tree = .ok ds)
    {d : Declaration} (hd : d ∈ ds) :
    ∃ definition, (definition, d.qualifiedName) ∈ markedDefinitions "" tree ∧
      definition.span ∈ definitionSpans tree ∧ d.location.line = definition.span.line ∧
      d.location.endLine = definition.span.endLine ∧
      ∃ name, rule.indent filename definition.span name definition.suite = .ok d.location.indent := by
  obtain ⟨⟨definition, path⟩, hmarked, hof⟩ := Declaration.exists_ofDefinition h hd
  obtain ⟨hpath, hplace⟩ := location_of_ofDefinition hof
  have hspan : definition.span ∈ definitionSpans tree :=
    (markedDefinitions_spans "" tree).subset (List.mem_map_of_mem hmarked)
  exact ⟨definition, by rwa [hpath], hspan, hplace⟩

theorem lines_of_definitions {filename : String} {rule : IndentRule}
    {definitions : List (Stmt × String)} {found : List (Option Declaration)}
    (h : List.Forall₂ (fun x d => Declaration.ofDefinition filename rule x = .ok d) definitions found) :
    ((found.filterMap id).map (·.location.line)).Sublist (definitions.map (·.1.span.line)) := by
  induction h with
  | nil => exact List.Sublist.refl []
  | @cons definition x definitions found hx _ ih =>
    cases x with
    | none => exact ih.cons _
    | some d =>
      have hline : d.location.line = definition.1.span.line := (location_of_ofDefinition hx).2.1
      rw [List.filterMap_cons_some (id_eq (some d)), List.map_cons, List.map_cons, hline]
      exact ih.cons_cons _

theorem lines_of_ofModule {filename : String} {rule : IndentRule} {tree : List Stmt}
    {ds : List Declaration} (h : Declaration.ofModule filename rule tree = .ok ds) :
    (ds.map (·.location.line)).Sublist ((definitionSpans tree).map (·.line)) := by
  obtain ⟨found, hfound, hds⟩ := bind_eq_ok.1 h
  obtain rfl := Except.ok.inj hds
  have hmarked := (markedDefinitions_spans "" tree).map (·.line)
  rw [List.map_map] at hmarked
  exact (lines_of_definitions (mapM_eq_ok_iff.1 hfound)).trans hmarked

/-! ## The header -/

section
variable {tokens : Array Token} {c : Cursor} {lo hi : Nat}
  (hcut : CutFrom c tokens.toList)
include hcut

theorem line_le_of_spread {spans : List Span} (h : Spread tokens lo spans hi) {span : Span}
    (hspan : span ∈ spans) : c.line ≤ span.line := by
  obtain ⟨_, first, _, _, _, _, hfirst, _, htext, _, rfl⟩ := h.tokens_of_mem hcut hspan
  exact (hcut.line_le (mem_of_getElem? hfirst) htext).1

theorem endLine_lt_of_follows {s : Stmt} {ss : List Stmt} (h : Follows tokens hi (s :: ss))
    (hsimple : s.isSimple = true) (hline : ∀ span ∈ definitionSpans ss, 0 < span.line) :
    ∀ span ∈ definitionSpans ss, s.span.endLine < span.line := by
  intro span hspan
  obtain ⟨first, b, m, hs, hbm, -, hend, hspread⟩ := h.1 hsimple
  have hlast : s.span.endLine = (lastSpan tokens b).endLine := by rw [hs]; rfl
  rw [hlast]
  rcases lastSpan_eq tokens b with hnone | ⟨l, t, hl, ht, hedge, heq⟩
  · rw [hnone]
    exact hline span hspan
  · rw [heq]
    have htext : t.text ≠ "" := (hcut.text_ne_iff (mem_of_getElem? ht)).2 hedge
    exact hspread.endLine_lt hcut hend ht htext (Nat.lt_of_lt_of_le hl hbm) hspan

theorem futureEnd_lt {before : Nat} {ss : List Stmt} (h : Follows tokens hi ss)
    (hline : ∀ span ∈ definitionSpans ss, before < span.line) :
    ∀ span ∈ definitionSpans ss, futureEnd before ss < span.line := by
  -- an import defines nothing, so the definitions behind it are all there are
  induction ss generalizing before with
  | nil => nofun
  | cons s ss ih =>
    rw [futureEnd]
    split
    · rename_i himport
      have hsimple : s.isSimple = true := by
        cases s <;> first | rfl | exact absurd himport Bool.false_ne_true
      rw [definitionSpans_cons_of_isSimple hsimple] at hline ⊢
      exact ih h.2 (endLine_lt_of_follows hcut h hsimple fun span hspan =>
        Nat.lt_of_le_of_lt (Nat.zero_le before) (hline span hspan))
    · exact hline

theorem preambleEnd_lt (hc : 0 < c.line) {tree : List Stmt} (h : Laid tokens lo tree hi) :
    ∀ span ∈ definitionSpans tree, preambleEnd tree < span.line := by
  have hpos : ∀ span ∈ definitionSpans tree, 0 < span.line := fun span hspan =>
    Nat.lt_of_lt_of_le hc (line_le_of_spread hcut h.spread hspan)
  cases tree with
  | nil => nofun
  | cons s ss =>
    rw [preambleEnd]
    split
    · rename_i htext
      have hsimple : s.isSimple = true := by
        cases s <;> first | rfl | exact absurd htext Bool.false_ne_true
      rw [definitionSpans_cons_of_isSimple hsimple] at hpos ⊢
      exact futureEnd_lt hcut h.follows.2 (endLine_lt_of_follows hcut h.follows hsimple hpos)
    · exact futureEnd_lt hcut h.follows hpos

end

theorem getElem?_of_lt_takeWhile {α : Type} {p : α → Bool} {xs : List α} {k : Nat}
    (h : k < (xs.takeWhile p).length) : ∃ x, xs[k]? = some x ∧ p x = true :=
  ⟨_, List.prefix_iff_getElem?.1 (List.takeWhile_prefix p) k h,
    List.all_eq_true.1 List.all_takeWhile _ (List.getElem_mem h)⟩

theorem tokens_below_comments (text : String) : ∃ c : Cursor,
    ((Text.codeLines text).takeWhile fun line => line.toList.head? = some '#').length < c.line ∧
    CutFrom c (tokenize 1 (closeLastLine text.toList)).tokens.toList := by
  generalize hcount :
    ((Text.codeLines text).takeWhile fun line => line.toList.head? = some '#').length = count
  have hcomment : ∀ k < count, ((Text.cutLines Text.endsCodeLine
      (closeLastLine text.toList)).getD k []).head? = some '#' := by
    intro k hk
    obtain ⟨l, hl, hhash⟩ := getElem?_of_lt_takeWhile (hcount ▸ hk)
    have hline : Text.codeLine text (k + 1) = l := by
      rw [Text.codeLine, Nat.add_sub_cancel, List.getD_eq_getElem?_getD, hl]
      rfl
    rw [Text.codeLine_eq, Nat.add_sub_cancel, ← Text.getD_cutLines_closeLastLine] at hline
    have hchars := of_decide_eq_true hhash
    rwa [← hline, String.toList_ofList] at hchars
  obtain ⟨c, hc, hcut⟩ := cut_below_comments (Text.not_return_mem_closeLastLine text.toList) count 1
    (4 * (closeLastLine text.toList).length + 8) hcomment
  exact ⟨c, by omega, hcut⟩

/-- **The imports go above every definition.** -/
theorem headerEnd_lt {text : String} {tree : List Stmt} (h : Module.parse text = .ok tree)
    {span : Span} (hspan : span ∈ definitionSpans tree) :
    headerEnd tree (Text.codeLines text) < span.line := by
  obtain ⟨stop, hlaid⟩ := laid_of_parse h
  unfold headerEnd
  split
  · -- without a preamble the header is made of comment lines, which hold no tokens
    obtain ⟨c, hc, hcut⟩ := tokens_below_comments text
    exact Nat.lt_of_lt_of_le hc (line_le_of_spread hcut hlaid.spread hspan)
  · exact preambleEnd_lt (tokenize_cut 1 _) Nat.one_pos hlaid span hspan

/-! ## Declarations in their text -/

theorem tokens_of_definition {text : String} {tree : List Stmt} (h : Module.parse text = .ok tree)
    {span : Span} (hspan : span ∈ definitionSpans tree) :
    span.line ≤ span.endLine ∧ ∃ first last : Token, first.StandsIn text ∧ last.StandsIn text ∧
      span = first.span.to last.span := by
  obtain ⟨stop, hlaid⟩ := laid_of_parse h
  have hcut := tokenize_cut 1 (closeLastLine text.toList)
  obtain ⟨a, first, l, last, -, hal, hfirst, hlast, htext, hlasttext, rfl⟩ :=
    hlaid.spread.tokens_of_mem hcut hspan
  refine ⟨hcut.line_le_endLine hfirst htext hal hlast hlasttext, first, last, ?_, ?_, rfl⟩
  · exact token_standsIn text (Array.mem_of_getElem? hfirst) htext
  · exact token_standsIn text (Array.mem_of_getElem? hlast) hlasttext

theorem endLine_le_of_standsIn {t : Token} {text : String} (h : t.StandsIn text) :
    t.span.endLine ≤ (Text.codeLines text).length := by
  obtain ⟨front, back, hfront, -, hline, -⟩ := h.ends
  by_contra hlong
  have hnone : (Text.codeLines text)[t.span.endLine - 1]? = none :=
    List.getElem?_eq_none (by omega)
  rw [Text.codeLine, List.getD_eq_getElem?_getD, hnone] at hline
  exact hfront (List.append_eq_nil_iff.1 hline.symm).1

/-- A declaration as it stands in a text of code, given its definition: the definition goes from a token
    to a token, the declaration has its first and its last line, and its indentation is the blank space
    at the start of the line on which the first statement of the body begins. -/
structure Declaration.StandsIn (d : Declaration) (definition : Stmt) (text : String) : Prop where
  tokens : ∃ first last : Token, first.StandsIn text ∧ last.StandsIn text ∧
    definition.span = first.span.to last.span
  line_eq : d.location.line = definition.span.line
  endLine_eq : d.location.endLine = definition.span.endLine
  indent_eq : ∀ s rest, definition.suite = s :: rest →
    d.location.indent = Text.leadingBlanks (Text.codeLine text s.span.line)

theorem parseSource_eq_ok_iff {filename text : String} {tree : List Stmt} :
    parseSource filename text = .ok tree ↔ Module.parse text = .ok tree := by
  rw [parseSource]
  cases Module.parse text with
  | error fault => exact iff_of_false error_ne_ok error_ne_ok
  | ok found =>
    exact ⟨fun h => congrArg _ (Except.ok.inj h), fun h => congrArg _ (Except.ok.inj h)⟩

section
variable {filename text : String} {tree : List Stmt} {ds : List Declaration}
  (hread : readModule filename text = .ok (tree, ds))
include hread

theorem parse_of_readModule : Module.parse text = .ok tree ∧
    Declaration.ofModule filename (.measured (Text.displayLines text)) tree = .ok ds := by
  obtain ⟨found, hparse, hread⟩ := bind_eq_ok.1 hread
  obtain ⟨declarations, hmodule, hread⟩ := bind_eq_ok.1 hread
  obtain ⟨rfl, rfl⟩ := Prod.mk.inj (Except.ok.inj hread)
  exact ⟨parseSource_eq_ok_iff.1 hparse, hmodule⟩

/-- **Where declarations stand**, if lines of code are displayed lines. -/
theorem Declaration.standsIn (hlines : Text.displayLines text = Text.codeLines text)
    {d : Declaration} (hd : d ∈ ds) :
    ∃ definition, (definition, d.qualifiedName) ∈ markedDefinitions "" tree ∧
      d.StandsIn definition text := by
  obtain ⟨hparse, hmodule⟩ := parse_of_readModule hread
  rw [hlines] at hmodule
  obtain ⟨definition, hmarked, hspan, hline, hend, name, hindent⟩ := exists_definition hmodule hd
  refine ⟨definition, hmarked, (tokens_of_definition hparse hspan).2, hline, hend, ?_⟩
  intro s rest hsuite
  have hbody : bodyIndent filename definition.span name (s :: rest) (Text.codeLines text) =
      .ok d.location.indent := hsuite ▸ hindent
  exact indent_of_suite hbody

/-- No two declarations begin on one line. -/
theorem declarations_apart : (ds.map (·.location.line)).Nodup := by
  obtain ⟨hparse, hmodule⟩ := parse_of_readModule hread
  obtain ⟨stop, hlaid⟩ := laid_of_parse hparse
  have hrising := hlaid.spread.line_lt (tokenize_cut 1 _)
  have hlines : ((definitionSpans tree).map (·.line)).Nodup :=
    List.pairwise_map.2 (hrising.imp Nat.ne_of_lt)
  exact (lines_of_ofModule hmodule).nodup hlines

/-- Declarations begin below the header and end within the text. -/
theorem declarations_in_range : ∀ d ∈ ds, headerEnd tree (Text.codeLines text) < d.location.line ∧
    d.location.line ≤ d.location.endLine ∧ d.location.endLine ≤ (Text.codeLines text).length := by
  intro d hd
  obtain ⟨hparse, hmodule⟩ := parse_of_readModule hread
  obtain ⟨definition, -, hspan, hline, hend, -⟩ := exists_definition hmodule hd
  obtain ⟨hle, first, last, -, hlast, htokens⟩ := tokens_of_definition hparse hspan
  rw [hline, hend]
  refine ⟨headerEnd_lt hparse hspan, hle, ?_⟩
  rw [htokens]
  exact endLine_le_of_standsIn hlast

end

/-! ## Members -/

theorem Declaration.accepted_sublist (lines : List String) (ds : List Declaration) :
    ((ds.filterMap (·.accepted? lines)).map (·.declaration)).Sublist ds := by
  induction ds with
  | nil => exact List.Sublist.refl []
  | cons d ds ih =>
    cases haccepted : d.accepted? lines with
    | none =>
      rw [List.filterMap_cons_none haccepted]
      exact ih.cons d
    | some p =>
      rw [List.filterMap_cons_some haccepted, List.map_cons, declaration_of_accepted? haccepted]
      exact ih.cons_cons d

/-- The lines of an expanded text are those of the text, each with what is put into it, and lines put in
    between; and the members of every plan stand behind the line on which its declaration ends. -/
def Expansion.PutsBehind (e : Expansion) (tree : List Stmt) (ds : List Declaration) (text : String) :
    Prop :=
  ∃ changed out,
    insertAll (Text.codeLines text) (e.plans.flatMap (·.insertions tree)) = .ok changed ∧
    changed.length = (Text.codeLines text).length ∧
    out.filterMap WovenLine.kept? = changed ∧
    e.text = String.intercalate "\n" (out.map WovenLine.line) ++ "\n" ∧
    ∀ p ∈ e.plans, p.declaration ∈ ds ∧
      p.block.GoesBehind (e.plans.map Plan.block) changed out

/-- The lines of an expanded text, and the places of its plans, if lines of code are displayed lines. -/
theorem Expansion.woven_of_read {filename text : String} {tree : List Stmt} {ds : List Declaration}
    (hread : readModule filename text = .ok (tree, ds))
    (hlines : Text.displayLines text = Text.codeLines text) {e : Expansion}
    (hexpand : expand filename text = .ok e) (hsuccess : e.success = true) (hplans : e.plans ≠ []) :
    ∃ changed, insertAll (Text.codeLines text) (e.plans.flatMap (·.insertions tree)) = .ok changed ∧
      KeepsLines (Text.codeLines text) changed ∧
      e.text = String.intercalate "\n" ((wovenModule tree changed e.plans
        (!(e.plans.flatMap (·.insertions tree)).isEmpty)).map WovenLine.line) ++ "\n" ∧
      (e.plans.map (·.declaration.location.line)).Nodup ∧
      ∀ p ∈ e.plans, p.declaration ∈ ds ∧
        headerEnd tree (Text.codeLines text) < p.declaration.location.line ∧
        p.declaration.location.line ≤ p.declaration.location.endLine ∧
        p.declaration.location.endLine ≤ changed.length := by
  have hrun : expandTo .nobody filename text () = (.ok e, ()) := Prod.ext hexpand rfl
  obtain ⟨he, -, ⟨hfail | hnone, -⟩ | ⟨-, -, new, hnew, htext⟩⟩ := expandTo_ok_of_read hread hrun
  · exact absurd (hsuccess.symm.trans hfail) (by decide)
  · exact absurd hnone hplans
  rw [hlines] at hnew
  obtain ⟨changed, hchanged, rfl⟩ := expandLines_ok hnew
  have hkeeps := insertAll_keeps hchanged
  -- the places of the plans are those of their declarations, in the text as it was
  have hplanned : (e.plans.map (·.declaration)).Sublist ds := by
    rw [congrArg Expansion.plans he]
    exact Declaration.accepted_sublist (Text.displayLines text) ds
  have hstart : (e.plans.map (·.declaration.location.line)).Nodup := by
    have hstarts := hplanned.map (·.location.line)
    rw [List.map_map] at hstarts
    exact hstarts.nodup (declarations_apart hread)
  have hrange : ∀ p ∈ e.plans, p.declaration ∈ ds ∧
      headerEnd tree (Text.codeLines text) < p.declaration.location.line ∧
      p.declaration.location.line ≤ p.declaration.location.endLine ∧
      p.declaration.location.endLine ≤ changed.length := by
    intro p hp
    have hdeclared := hplanned.subset (List.mem_map_of_mem hp)
    obtain ⟨hheader, hle, hend⟩ := declarations_in_range hread p.declaration hdeclared
    exact ⟨hdeclared, hheader, hle, hkeeps.length_eq ▸ hend⟩
  have hwoven := (insertMembers_eq_woven tree (!(e.plans.flatMap (·.insertions tree)).isEmpty) hstart
    fun p hp => ⟨Nat.lt_of_le_of_lt (headerEnd_le tree hkeeps) (hrange p hp).2.1, (hrange p hp).2.2⟩).1
  exact ⟨changed, hchanged, hkeeps, by rw [htext, hwoven], hstart, hrange⟩

/-- **An expansion puts members behind their classes**, if lines of code are displayed lines. -/
theorem Expansion.putsBehind {filename text : String} {tree : List Stmt} {ds : List Declaration}
    (hread : readModule filename text = .ok (tree, ds))
    (hlines : Text.displayLines text = Text.codeLines text) {e : Expansion}
    (hexpand : expand filename text = .ok e) (hsuccess : e.success = true) (hplans : e.plans ≠ []) :
    e.PutsBehind tree ds text := by
  obtain ⟨changed, hchanged, hkeeps, htext, hstart, hrange⟩ :=
    Expansion.woven_of_read hread hlines hexpand hsuccess hplans
  refine ⟨changed, _, hchanged, hkeeps.length_eq, filterMap_kept_woven _ _ _ _, htext, fun p hp => ?_⟩
  obtain ⟨hdeclared, hheader, hle, hend⟩ := hrange p hp
  refine ⟨hdeclared,
    Block.goesBehind (blocks_start_apart hstart) (List.mem_map_of_mem hp) _ ?_ hend⟩
  rw [importBlock_place]
  exact Nat.lt_of_le_of_lt (headerEnd_le tree hkeeps) (Nat.lt_of_lt_of_le hheader hle)

/-- **Members stand behind their classes.** Lines of code are displayed lines exactly where no character
    ends the one without ending the other, and spans count lines of code. Where the two are the same,
    declarations stand on the lines they say and have the indentation of their bodies, and an expansion
    puts the members of each class behind the line on which it ends. -/
theorem members_behind_classes (text : String) :
    (Text.displayLines text = Text.codeLines text ↔ Text.PlainEnds text) ∧
    (∀ t ∈ (tokenize 1 (closeLastLine text.toList)).tokens, t.text ≠ "" → t.StandsIn text) ∧
    (Text.PlainEnds text → ∀ filename tree ds, readModule filename text = .ok (tree, ds) →
      (∀ d ∈ ds, ∃ definition, (definition, d.qualifiedName) ∈ markedDefinitions "" tree ∧
        d.StandsIn definition text) ∧
      ∀ e, expand filename text = .ok e → e.success = true → e.plans ≠ [] →
        e.PutsBehind tree ds text) := by
  refine ⟨Text.displayLines_eq_codeLines_iff text, fun t ht => token_standsIn text ht, ?_⟩
  intro hplain filename tree ds hread
  have hlines : Text.displayLines text = Text.codeLines text :=
    (Text.displayLines_eq_codeLines_iff text).2 hplain
  constructor
  · exact fun d hd => Declaration.standsIn hread hlines hd
  · exact fun e hexpand hsuccess hplans => Expansion.putsBehind hread hlines hexpand hsuccess hplans

/-- A record inside a class, below a comment. -/
def nestedText : String :=
  "# notes\nclass A:\n    @autolens\n    @dataclass(frozen=True)\n    class B:\n        y: int\n"

theorem members_behind_classes_nested :
    ∃ tree ds e, Text.PlainEnds nestedText ∧ readModule sourceName nestedText = .ok (tree, ds) ∧
      expand sourceName nestedText = .ok e ∧ e.success = true ∧ e.plans ≠ [] ∧
      (∀ d ∈ ds, ∃ definition, (definition, d.qualifiedName) ∈ markedDefinitions "" tree ∧
        d.StandsIn definition nestedText) ∧
      e.PutsBehind tree ds nestedText := by
  have hplain : Text.PlainEnds nestedText := by decide +kernel
  have hrun : (expand sourceName nestedText).toOption.any
      (fun e => e.success && !e.plans.isEmpty) = true := by decide +kernel
  cases hexpand : expand sourceName nestedText with
  | error fault =>
    rw [hexpand] at hrun
    exact absurd hrun Bool.false_ne_true
  | ok e =>
    rw [hexpand] at hrun
    obtain ⟨hsuccess, hsome⟩ := Bool.and_eq_true_iff.1 hrun
    have hplans : e.plans ≠ [] := by
      intro hnone
      rw [hnone] at hsome
      exact absurd hsome Bool.false_ne_true
    obtain ⟨ds, hparse⟩ := parseAll_of_expand hexpand
    obtain ⟨tree, hread⟩ := readModule_of_parseAll hparse
    obtain ⟨hstand, hput⟩ := (members_behind_classes nestedText).2.2 hplain sourceName tree ds hread
    exact ⟨tree, ds, e, hplain, hread, rfl, hsuccess, hplans, hstand,
      hput e hexpand hsuccess hplans⟩

/-- A form feed ends a displayed line and no line of code. -/
example : ¬Text.PlainEnds "\x0c\nclass P:\n    x: int\n" := by decide +kernel

end RecordLens
