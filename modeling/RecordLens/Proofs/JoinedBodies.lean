import RecordLens.Proofs.BodyPlaces
import RecordLens.Proofs.DeclaredDefinitions
import RecordLens.Proofs.Failures
import RecordLens.Proofs.LineStarts
/-!
Bodies that go on behind the colon of their head, and the indentation of all others. A body joins its head
where it begins right behind the colon, or it is a block behind the end of a line. A definition is refused
if its body joins its head and begins on the first line of the head. A head that takes several lines lets
a joined body pass: it is on the logical line of its head, and on another line of the text.

* `JoinsHead`, `HasBlock`: the two places of a body; `not_hasBlock_of_joinsHead`: no body has both.
* `Visits`: the definitions that are looked at.
* `refuses_iff`: the texts that are refused for a body.
* `firstOnLine_of_hasBlock`: the first statement of a block, and the blank space before it.
* `refuses_joined_bodies`: these together, for all declarations of a text.
-/
namespace RecordLens

open Code

namespace Code

/-- The tokens of a whole text. -/
abbrev tokensOf (text : String) : Array Token := (tokenize 1 (closeLastLine text.toList)).tokens

/-! ## Tokens at one place -/

theorem Place.not_past_le (p : Place) {cs : List Char} (h : cs ≠ []) : ¬(p.past cs).le p := by
  obtain ⟨c, cs, rfl⟩ := List.exists_cons_of_ne_nil h
  have hpos := c.utf8Size_pos
  rw [past]
  split
  · have hle := Place.le_past ⟨p.line + 1, 0⟩ cs
    unfold Place.le at *
    dsimp only at hle
    omega
  · have hle := Place.le_past ⟨p.line, p.column + c.utf8Size⟩ cs
    unfold Place.le at *
    dsimp only at hle
    omega

variable {tokens : Array Token} {cursor : Cursor}

theorem CutFrom.not_end_le (h : CutFrom cursor tokens.toList) {a : Nat} {t : Token}
    (ht : tokens[a]? = some t) (htext : t.text ≠ "") :
    ¬Place.le ⟨t.span.endLine, t.span.endColumn⟩ ⟨t.span.line, t.span.column⟩ := by
  obtain ⟨before, _, -, hstart, hstop, -⟩ := h.stands (mem_of_getElem? ht) htext
  rw [hstop, hstart, Place.past_append]
  exact Place.not_past_le _ fun hnil => htext (String.toList_eq_nil_iff.1 hnil)

theorem CutFrom.index_eq (h : CutFrom cursor tokens.toList) {a b : Nat} {t u : Token}
    (ht : tokens[a]? = some t) (htext : t.text ≠ "") (hu : tokens[b]? = some u) (hutext : u.text ≠ "")
    (hline : t.span.line = u.span.line) (hcolumn : t.span.column = u.span.column) : a = b := by
  rcases Nat.lt_trichotomy a b with hlt | heq | hgt
  · have hbefore := h.before ht htext hlt hu hutext
    rw [Span.Before, ← hline, ← hcolumn] at hbefore
    exact absurd hbefore (h.not_end_le ht htext)
  · exact heq
  · have hbefore := h.before hu hutext hgt ht htext
    rw [Span.Before, hline, hcolumn] at hbefore
    exact absurd hbefore (h.not_end_le hu hutext)

/-! ## The two places of a body -/

section
variable (tokens : Array Token)

/-- The body of a definition goes on behind the colon of its head: its first statement begins with the
    next token. -/
def JoinsHead (d : Stmt) : Prop := ∃ c first rest, HeadAt tokens d c ∧ d.suite = first :: rest ∧
  BeginsAt tokens first (c + 1)

/-- Behind the colon of the head of a definition a line ends and a block is indented, and the first
    statement of the body begins there, perhaps behind decorators. -/
def HasBlock (d : Stmt) : Prop := ∃ c first rest b, HeadAt tokens d c ∧ d.suite = first :: rest ∧
  EndsLine tokens (c + 1) ∧ (∃ t, tokens[c + 2]? = some t ∧ t.kind = .indent) ∧
  OpensAt tokens (c + 3) b ∧ BeginsAt tokens first b

end

theorem Headed.cases {d : Stmt} (h : Headed tokens d) : JoinsHead tokens d ∨ HasBlock tokens d := by
  obtain ⟨c, hhead, hbody⟩ := h
  generalize hsuite : d.suite = body at hbody
  cases hbody with
  | joined hfirst => exact .inl ⟨c, _, _, hhead, hsuite, hfirst⟩
  | block hend hindent hb hfirst => exact .inr ⟨c, _, _, _, hhead, hsuite, hend, hindent, hb, hfirst⟩

/-- Before the first statement of a block stands the edge of the block, or the end of a line. -/
theorem edge_before_of_opensAt {c b : Nat} (hindent : ∃ t, tokens[c + 2]? = some t ∧ t.kind = .indent)
    (hb : OpensAt tokens (c + 3) b) : ∃ m u, b = m + 1 ∧ c + 2 ≤ m ∧ tokens[m]? = some u ∧
      u.kind.isEdge = true := by
  rcases hb with rfl | ⟨m, hm, rfl, u, hu, hkind⟩
  · obtain ⟨t, ht, hkind⟩ := hindent
    exact ⟨c + 2, t, rfl, Nat.le_refl _, ht, by rw [hkind]; rfl⟩
  · exact ⟨m, u, rfl, by omega, hu, by rw [hkind]; rfl⟩

section
variable (hcut : CutFrom cursor tokens.toList)
include hcut

/-- **A body has one of the two places.** -/
theorem not_hasBlock_of_joinsHead {d : Stmt} (hjoins : JoinsHead tokens d) : ¬HasBlock tokens d := by
  rintro ⟨c', first', rest', b, -, hsuite', -, hindent, hb, u, hu, hedge', hline', hcolumn'⟩
  obtain ⟨c, first, rest, ⟨-, colon, hcolon, htext⟩, hsuite, t, ht, hedge, hline, hcolumn⟩ := hjoins
  obtain ⟨rfl, rfl⟩ := List.cons.inj (hsuite.symm.trans hsuite')
  have hsame : c + 1 = b := hcut.index_eq ht ((hcut.text_ne_iff (mem_of_getElem? ht)).2 hedge) hu
    ((hcut.text_ne_iff (mem_of_getElem? hu)).2 hedge') (hline.symm.trans hline')
    (hcolumn.symm.trans hcolumn')
  -- the token before the statement would be both the colon and an edge
  obtain ⟨m, v, rfl, -, hv, hkind⟩ := edge_before_of_opensAt hindent hb
  obtain rfl := Nat.succ.inj hsame
  obtain rfl := Option.some.inj (hcolon.symm.trans hv)
  have hnot := (hcut.text_ne_iff (mem_of_getElem? hv)).1 (by rw [htext]; decide)
  exact absurd (hnot.symm.trans hkind) Bool.false_ne_true

theorem line_lt_of_hasBlock {d first : Stmt} {rest : List Stmt} (h : HasBlock tokens d)
    (hsuite : d.suite = first :: rest) : d.span.line < first.span.line := by
  obtain ⟨c, first', rest', b, ⟨⟨a, hac, t, ht, hedge, hline, -⟩, -⟩, hsuite', hend, -, hb, u, hu,
    hedge', hline', -⟩ := h
  obtain ⟨rfl, rfl⟩ := List.cons.inj (hsuite.symm.trans hsuite')
  have htext := (hcut.text_ne_iff (mem_of_getElem? ht)).2 hedge
  have hutext := (hcut.text_ne_iff (mem_of_getElem? hu)).2 hedge'
  have hle := hb.le
  rw [hline, hline']
  exact Nat.lt_of_le_of_lt (hcut.line_le (mem_of_getElem? ht) htext).2
    (hcut.endLine_lt_line ht htext (by omega) hend (by omega) hu hutext)

end

theorem startsOnHead_of_hasBlock {cursor : Cursor} (hcut : CutFrom cursor tokens.toList) {d : Stmt}
    (h : HasBlock tokens d) : startsOnHead d = false := by
  obtain ⟨_, first, rest, _, _, hsuite, -⟩ := id h
  have hlt := line_lt_of_hasBlock hcut h hsuite
  cases d with
  | classDef span name decorators bases body =>
    obtain rfl : body = first :: rest := hsuite
    exact decide_eq_false (Nat.ne_of_gt hlt)
  | functionDef span isAsync name decorators params body =>
    obtain rfl : body = first :: rest := hsuite
    exact decide_eq_false (Nat.ne_of_gt hlt)
  | _ => rfl

/-- **The first statement of a block is the first on its line**, behind all the blank space there. -/
theorem firstOnLine_of_hasBlock {text : String} {d first : Stmt} {rest : List Stmt}
    (h : HasBlock (tokensOf text) d)
    (hsuite : d.suite = first :: rest) :
    FirstOnLine text (Text.leadingBlanks (Text.codeLine text first.span.line)) first.span.line
      first.span.column := by
  obtain ⟨c, first', rest', b, -, hsuite', -, hindent, hb, t, ht, hedge, hline, hcolumn⟩ := h
  obtain ⟨rfl, rfl⟩ := List.cons.inj (hsuite.symm.trans hsuite')
  obtain ⟨m, u, rfl, -, hu, hkind⟩ := edge_before_of_opensAt hindent hb
  rw [hline, hcolumn]
  exact firstOnLine_of_edge ht hedge ⟨u, hu, hkind⟩

end Code

/-! ## Definitions that are looked at -/

theorem definitions_of_marked {d : Stmt} {path : String} (outer : String) {ss : List Stmt}
    (h : (d, path) ∈ markedDefinitions outer ss) : d ∈ definitions ss := by
  have hall := forall_marked (P := fun s => ∀ x ∈ definitionsIn s, x ∈ definitions ss)
    (R := fun _ => True) (fun s hs x hx => mem_definitions.2 ⟨s, hs, hx⟩) ?_ trivial
    (fun _ _ _ _ => trivial) _ h
  · obtain ⟨hdeclares, hdefinitions, -⟩ := hall
    refine hdefinitions d ?_
    cases hdeclares <;> exact List.mem_cons_self
  · rintro (_ | _) hclass hdefinitions t ht x hx
    · exact hdefinitions x (List.mem_cons_of_mem _ (mem_definitions.2 ⟨t, ht, hx⟩))
    all_goals exact absurd hclass Bool.false_ne_true

/-- A declared definition of a text that is looked at: none before it is refused. -/
def Visits (filename text : String) (d : Stmt) : Prop :=
  ∃ tree front path back, Module.parse text = .ok tree ∧
    markedDefinitions "" tree = front ++ (d, path) :: back ∧ ∀ x ∈ front, ∃ found,
      Declaration.ofDefinition filename (.measured (Text.displayLines text)) x = .ok found

/-- A text is refused because of the body of a definition. -/
def Refuses (filename text : String) : Prop :=
  ∃ line name, Declaration.parseAll filename text = .error (.bodyOnHeadLine filename line name)

variable {filename text : String} {d : Stmt}

theorem Visits.headed (h : Visits filename text d) :
    Headed (tokensOf text) d := by
  obtain ⟨tree, front, path, back, hparse, hmarked, -⟩ := h
  have hmem : (d, path) ∈ markedDefinitions "" tree := by
    rw [hmarked]
    exact List.mem_append_right front List.mem_cons_self
  exact headed_of_parse hparse d (definitions_of_marked "" hmem)

theorem parseSource_ne_bodyOnHeadLine {line : Nat} {name : String} :
    parseSource filename text ≠ .error (.bodyOnHeadLine filename line name) := by
  rw [parseSource]
  intro h
  cases hparse : Module.parse text with
  | ok found =>
    rw [hparse] at h
    exact error_ne_ok h.symm
  | error fault =>
    rw [hparse] at h
    cases fault <;> exact SourceError.noConfusion (Except.error.inj h)

theorem startsOnHead_of_ofDefinition {lines : List String} {path name : String} {line : Nat}
    (h : Declaration.ofDefinition filename (.measured lines) (d, path) =
      .error (.bodyOnHeadLine filename line name)) : startsOnHead d = true := by
  by_contra hnot
  rcases ofDefinition_writesOut filename lines path (Bool.not_eq_true _ ▸ hnot) with
    ⟨-, found, hok⟩ | ⟨-, why, hfault⟩
  · exact error_ne_ok (h.symm.trans hok)
  · exact SourceError.noConfusion (Except.error.inj (h.symm.trans hfault))

/-- **A text is refused because of a body if and only if some definition that is looked at has its body on
    the line of its head.** -/
theorem refuses_iff : Refuses filename text ↔ ∃ d, Visits filename text d ∧ startsOnHead d = true := by
  constructor
  · rintro ⟨line, name, h⟩
    rcases bind_eq_error.1 h with h | ⟨tree, htree, h⟩
    · exact absurd h parseSource_ne_bodyOnHeadLine
    · rcases bind_eq_error.1 h with h | ⟨_, -, h⟩
      · obtain ⟨front, ⟨d, path⟩, back, hmarked, hfront, hd⟩ := mapM_eq_error_iff.1 h
        exact ⟨d, ⟨tree, front, path, back, parseSource_eq_ok_iff.1 htree, hmarked, hfront⟩,
          startsOnHead_of_ofDefinition hd⟩
      · exact absurd h.symm error_ne_ok
  · rintro ⟨d, ⟨tree, front, path, back, hparse, hmarked, hfront⟩, hhead⟩
    obtain ⟨line, name, hd⟩ :=
      ofDefinition_of_onHead filename (Text.displayLines text) path hhead
    refine ⟨line, name, bind_eq_error.2 (.inr ⟨tree, parseSource_eq_ok_iff.2 hparse, ?_⟩)⟩
    exact bind_eq_error.2 (.inl (mapM_eq_error_iff.2 ⟨front, _, back, hmarked, hfront, hd⟩))

theorem exists_visited {ds : List Declaration} (h : Declaration.parseAll filename text = .ok ds)
    {d : Declaration} (hd : d ∈ ds) : ∃ definition, Visits filename text definition ∧
      Declaration.ofDefinition filename (.measured (Text.displayLines text))
        (definition, d.qualifiedName) = .ok (some d) := by
  obtain ⟨tree, htree, hmodule⟩ := bind_eq_ok.1 h
  obtain ⟨found, hfound, hds⟩ := bind_eq_ok.1 hmodule
  obtain rfl := Except.ok.inj hds
  obtain ⟨_, hx, rfl⟩ := List.mem_filterMap.1 hd
  obtain ⟨⟨definition, path⟩, hmarked, hof⟩ := exists_of_mem_mapM hfound hx
  obtain rfl : d.qualifiedName = path := (location_of_ofDefinition hof).1
  obtain ⟨front, back, hsplit⟩ := List.append_of_mem hmarked
  refine ⟨definition, ⟨tree, front, _, back, parseSource_eq_ok_iff.1 htree, hsplit, fun x hx => ?_⟩, hof⟩
  exact exists_of_mapM_eq_ok hfound x (by rw [hsplit]; exact List.mem_append_left _ hx)

/-! ## Indentation -/

/-- The indentation of a declaration is all the blank space before the first statement of its definition,
    which is the first on its line. -/
def Declaration.IndentedIn (d : Declaration) (definition : Stmt) (text : String) : Prop :=
  ∃ first rest, definition.suite = first :: rest ∧
    FirstOnLine text d.location.indent first.span.line first.span.column

theorem indentedIn_of_hasBlock (hplain : Text.PlainEnds text) {d : Declaration} {definition : Stmt}
    (hof : Declaration.ofDefinition filename (.measured (Text.displayLines text))
      (definition, d.qualifiedName) = .ok (some d))
    (hblock : HasBlock (tokensOf text) definition) :
    d.IndentedIn definition text := by
  obtain ⟨-, -, -, name, hindent⟩ := location_of_ofDefinition hof
  have hsuite : ∃ first rest, definition.suite = first :: rest := by
    obtain ⟨_, first, rest, _, _, hsuite, -⟩ := hblock
    exact ⟨first, rest, hsuite⟩
  obtain ⟨first, rest, hsuite⟩ := hsuite
  refine ⟨first, rest, hsuite, ?_⟩
  have hbody : bodyIndent filename definition.span name (first :: rest) (Text.codeLines text) =
      .ok d.location.indent := by
    rw [← (Text.displayLines_eq_codeLines_iff text).2 hplain, ← hsuite]
    exact hindent
  rw [indent_of_suite hbody]
  exact firstOnLine_of_hasBlock hblock hsuite

/-- A declared definition does not have its body on the line of its head. -/
theorem startsOnHead_of_declared {lines : List String} {path : String} {found : Option Declaration}
    (h : Declaration.ofDefinition filename (.measured lines) (d, path) = .ok found) :
    startsOnHead d = false := by
  cases hhead : startsOnHead d with
  | false => rfl
  | true =>
    obtain ⟨line, name, hfault⟩ := ofDefinition_of_onHead filename lines path hhead
    exact absurd (hfault.symm.trans h) error_ne_ok

/-! ## Texts -/

/-- **Joined bodies are refused on the first line of their head.** The body of every definition that is
    looked at either joins its head or is a block. A text is refused because of a body if and only if some
    body that joins its head begins on the line on which that head begins. Otherwise a declaration has the
    blank space before the first statement of its block as its indentation, if lines of code are displayed
    lines, or its body joins a head of several lines, which is not noticed. -/
theorem refuses_joined_bodies (filename text : String) :
    (∀ d, Visits filename text d → (JoinsHead (tokensOf text) d ↔ ¬HasBlock (tokensOf text) d)) ∧
    (Refuses filename text ↔
      ∃ d, Visits filename text d ∧ JoinsHead (tokensOf text) d ∧ startsOnHead d = true) ∧
    (Text.PlainEnds text → ∀ ds, Declaration.parseAll filename text = .ok ds → ∀ d ∈ ds,
      ∃ definition, Visits filename text definition ∧ d.location.line = definition.span.line ∧
        (JoinsHead (tokensOf text) definition ∧ startsOnHead definition = false ∨
          HasBlock (tokensOf text) definition ∧ d.IndentedIn definition text)) := by
  have hcut := tokenize_cut 1 (closeLastLine text.toList)
  refine ⟨fun d hd => ⟨not_hasBlock_of_joinsHead hcut, hd.headed.cases.resolve_right⟩, ?_, ?_⟩
  · rw [refuses_iff]
    refine exists_congr fun d => and_congr_right fun hd => ?_
    refine ⟨fun hhead => ⟨hd.headed.cases.resolve_right fun hblock => ?_, hhead⟩, And.right⟩
    exact absurd (hhead.symm.trans (startsOnHead_of_hasBlock hcut hblock)) (by decide)
  · intro hplain ds hparse d hd
    obtain ⟨definition, hvisits, hof⟩ := exists_visited hparse hd
    refine ⟨definition, hvisits, (location_of_ofDefinition hof).2.1, hvisits.headed.cases.imp ?_ ?_⟩
    · exact fun hjoins => ⟨hjoins, startsOnHead_of_declared hof⟩
    · exact fun hblock => ⟨hblock, indentedIn_of_hasBlock hplain hof hblock⟩

/-- A record with its head on three lines and a comment before its block. -/
def spreadHeadText : String :=
  "@autolens\n@dataclass(frozen=True)\nclass P(\n    Base,\n):\n    # notes\n    x: int\n"

theorem refuses_joined_bodies_spread :
    ∃ ds, Declaration.parseAll sourceName spreadHeadText = .ok ds ∧ ds ≠ [] ∧
      Text.PlainEnds spreadHeadText ∧
      (∀ d ∈ ds, ∃ definition, Visits sourceName spreadHeadText definition ∧
        d.location.line = definition.span.line ∧
        (JoinsHead (tokensOf spreadHeadText) definition ∧ startsOnHead definition = false ∨
          HasBlock (tokensOf spreadHeadText) definition ∧ d.IndentedIn definition spreadHeadText)) ∧
      Refuses "a.py" headLineText ∧
      ∃ d, Visits "a.py" headLineText d ∧ JoinsHead (tokensOf headLineText) d ∧
        startsOnHead d = true := by
  have hplain : Text.PlainEnds spreadHeadText := by decide +kernel
  have hrun : (Declaration.parseAll sourceName spreadHeadText).toOption.any (!·.isEmpty) = true := by
    decide +kernel
  have hrefuses : Refuses "a.py" headLineText := ⟨6, "B", by decide +kernel⟩
  cases hparse : Declaration.parseAll sourceName spreadHeadText with
  | error fault =>
    rw [hparse] at hrun
    exact absurd hrun Bool.false_ne_true
  | ok ds =>
    refine ⟨ds, rfl, ?_, hplain, ?_, hrefuses, (refuses_joined_bodies "a.py" headLineText).2.1.1 hrefuses⟩
    · rintro rfl
      rw [hparse] at hrun
      exact absurd hrun Bool.false_ne_true
    · exact (refuses_joined_bodies sourceName spreadHeadText).2.2 hplain ds hparse

/-- A record whose body joins the second line of its head. -/
def joinedBelowText : String :=
  "@autolens\n@dataclass(frozen=True)\nclass P(\n    Base): x: int\n"

/-- It is declared, though its body is on the logical line of its head. -/
theorem joinedBelow_not_refused : ¬Refuses sourceName joinedBelowText ∧
    ∃ d, Visits sourceName joinedBelowText d ∧ JoinsHead (tokensOf joinedBelowText) d := by
  have hrun : (Declaration.parseAll sourceName joinedBelowText).toOption.any (!·.isEmpty) = true := by
    decide +kernel
  have hindent : (tokensOf joinedBelowText).all (·.kind ≠ .indent) = true := by decide +kernel
  cases hparse : Declaration.parseAll sourceName joinedBelowText with
  | error fault =>
    rw [hparse] at hrun
    exact absurd hrun Bool.false_ne_true
  | ok ds =>
    rw [hparse] at hrun
    refine ⟨fun ⟨line, name, h⟩ => error_ne_ok (h.symm.trans hparse), ?_⟩
    obtain ⟨d, ds, rfl⟩ := List.exists_cons_of_ne_nil (l := ds) (by
      rintro rfl
      exact absurd hrun Bool.false_ne_true)
    obtain ⟨definition, hvisits, -⟩ := exists_visited hparse List.mem_cons_self
    refine ⟨definition, hvisits, hvisits.headed.cases.resolve_right ?_⟩
    rintro ⟨c, first, rest, b, -, -, -, ⟨t, ht, hkind⟩, -⟩
    have hnot := Array.all_eq_true'.1 hindent t (Array.mem_of_getElem? ht)
    exact absurd hkind (of_decide_eq_true hnot)

end RecordLens
