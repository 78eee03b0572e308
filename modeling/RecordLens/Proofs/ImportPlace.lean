import RecordLens.Proofs.ClassPlaces
import RecordLens.Proofs.ImportStatements
import RecordLens.Proofs.StatementOrder
/-!
Where the imports go that generated members need. They go behind the description of a module and its
imports from the future, on a line of their own between two lines of code, and above every class that is
expanded; so names are bound before members use them. This holds of a module if the imports that count as
imports from the future are such, if no semicolon joins them to what stands behind, and if the imports
that the module has already stand above its classes.

* `preamble`: the statements that the imports go behind.
* `FitsImports`: a place between lines of code, with nothing but a preamble above it.
* `fits_of_parse`: the place of the imports is one.
* `imports_above_classes`: the imports in the text of an expansion.
-/
namespace RecordLens

open Code
open Code.Reading (lastSpan)

/-! ## The preamble -/

/-- The description of a module and the imports at its top that count as imports from the future. -/
def preamble : List Stmt → List Stmt
  | [] => []
  | s :: ss =>
    if isTextStatement s then s :: ss.takeWhile isFutureImport else (s :: ss).takeWhile isFutureImport

/-- The statements of a module behind its preamble. -/
def behindPreamble (tree : List Stmt) : List Stmt := tree.drop (preamble tree).length

theorem preamble_append (tree : List Stmt) : preamble tree ++ behindPreamble tree = tree := by
  have hprefix : preamble tree <+: tree := by
    cases tree with
    | nil => exact List.prefix_refl []
    | cons s ss =>
      rw [preamble]
      split
      · exact (List.prefix_cons_inj s).2 (List.takeWhile_prefix isFutureImport)
      · exact List.takeWhile_prefix isFutureImport
  exact List.prefix_iff_eq_append.1 hprefix

theorem futureEnd_eq (before : Nat) (ss : List Stmt) : futureEnd before ss =
    (((ss.takeWhile isFutureImport).getLast?).map (·.span.endLine)).getD before := by
  induction ss generalizing before with
  | nil => rfl
  | cons s ss ih =>
    rw [futureEnd, List.takeWhile_cons]
    split
    · rw [ih, List.getLast?_cons]
      cases (ss.takeWhile isFutureImport).getLast? <;> rfl
    · rfl

theorem preambleEnd_eq (tree : List Stmt) :
    preambleEnd tree = (((preamble tree).getLast?).map (·.span.endLine)).getD 0 := by
  cases tree with
  | nil => rfl
  | cons s ss =>
    rw [preambleEnd, preamble]
    split
    · rw [futureEnd_eq, List.getLast?_cons]
      cases (ss.takeWhile isFutureImport).getLast? <;> rfl
    · exact futureEnd_eq 0 (s :: ss)

/-- A description, if any, and what counts as imports from the future behind it. -/
theorem preamble_parts (tree : List Stmt) : ∃ description imports,
    preamble tree = description ++ imports ∧ description.length ≤ 1 ∧
    (∀ s ∈ description, isTextStatement s = true) ∧ ∀ s ∈ imports, isFutureImport s = true := by
  have himports (ss : List Stmt) : ∀ s ∈ ss.takeWhile isFutureImport, isFutureImport s = true :=
    fun _ hs => List.mem_takeWhile_imp hs
  cases tree with
  | nil => exact ⟨[], [], rfl, Nat.zero_le 1, nofun, nofun⟩
  | cons s ss =>
    rw [preamble]
    split
    · rename_i htext
      exact ⟨[s], _, rfl, Nat.le_refl 1, List.forall_mem_singleton.2 htext, himports ss⟩
    · exact ⟨[], _, rfl, Nat.zero_le 1, nofun, himports (s :: ss)⟩

theorem isSimple_of_mem_preamble {tree : List Stmt} {s : Stmt} (hs : s ∈ preamble tree) :
    s.isSimple = true := by
  obtain ⟨description, imports, hparts, -, htext, himport⟩ := preamble_parts tree
  rw [hparts, List.mem_append] at hs
  rcases hs with hs | hs
  · have h := htext s hs
    cases s <;> first | rfl | exact absurd h Bool.false_ne_true
  · have h := himport s hs
    cases s <;> first | rfl | exact absurd h Bool.false_ne_true

/-- How many levels up from its own package a statement imports from. -/
def Code.Stmt.level : Stmt → Nat
  | .importFrom _ level _ _ => level
  | _ => 0

/-- A description, if any, and imports from the future. -/
def IsPreamble (ss : List Stmt) : Prop :=
  ∃ description imports, ss = description ++ imports ∧ description.length ≤ 1 ∧
    (∀ s ∈ description, isTextStatement s = true) ∧
    ∀ s ∈ imports, ∃ span names, s = .importFrom span 0 (some futureModule) names

theorem isPreamble_preamble {tree : List Stmt} (h : ∀ s ∈ preamble tree, s.level = 0) :
    IsPreamble (preamble tree) := by
  obtain ⟨description, imports, hparts, hlength, htext, himport⟩ := preamble_parts tree
  refine ⟨description, imports, hparts, hlength, htext, fun s hs => ?_⟩
  have hfuture := himport s hs
  have hlevel := h s (hparts ▸ List.mem_append_right description hs)
  unfold isFutureImport at hfuture
  split at hfuture
  · rename_i span level m names
    obtain rfl := of_decide_eq_true hfuture
    obtain rfl : level = 0 := hlevel
    exact ⟨span, names, rfl⟩
  · exact absurd hfuture Bool.false_ne_true

/-! ## Places between statements -/

section
variable (tokens : Array Token)

/-- Whether a semicolon stands between two statements. -/
def Joined (s t : Stmt) : Prop :=
  ∃ token ∈ tokens.toList, token.text = ";" ∧ s.span.Before token.span ∧ token.span.Before t.span

instance (s t : Stmt) : Decidable (Joined tokens s t) :=
  inferInstanceAs (Decidable (∃ token ∈ tokens.toList, _))

/-- The statements `above` stand on the lines down to `place`, and the statements `below` behind them.
    So do the tokens before the `k`-th and from it on, and before it a line of code ends. -/
structure Separates (above below : List Stmt) (place k : Nat) : Prop where
  above_le : ∀ s ∈ above, s.span.endLine ≤ place
  below_lt : ∀ s ∈ below, place < s.span.line
  before_le : ∀ l t, l < k → tokens[l]? = some t → t.text ≠ "" → t.span.endLine ≤ place
  behind_lt : ∀ l t, k ≤ l → tokens[l]? = some t → t.text ≠ "" → place < t.span.line
  ends : k = 0 ∨ EndsLine tokens (k - 1)

/-- A place among the lines of a text where imports may stand, those from the future too: it is between
    lines of code, and above it are the description of the module and imports from the future only. -/
def FitsImports (tree : List Stmt) (place : Nat) : Prop :=
  ∃ above below k, tree = above ++ below ∧ IsPreamble above ∧ Separates tokens above below place k

end

section
variable {tokens : Array Token} {c : Cursor} (hcut : CutFrom c tokens.toList)
include hcut

theorem separates_nil {tree : List Stmt} {lo hi place : Nat} (h : InOrder tokens lo tree hi)
    (hplace : place < c.line) : Separates tokens [] tree place 0 := by
  have htoken (l : Nat) (t : Token) (ht : tokens[l]? = some t) (htext : t.text ≠ "") :
      place < t.span.line :=
    Nat.lt_of_lt_of_le hplace (hcut.line_le (mem_of_getElem? ht) htext).1
  refine ⟨nofun, fun s hs => ?_, fun l t hl => absurd hl (Nat.not_lt_zero l),
    fun l t _ ht htext => htoken l t ht htext, .inl rfl⟩
  obtain ⟨a, first, -, hfirst, hedge, hline, -⟩ := h.first_of_mem hs
  rw [hline]
  exact htoken a first hfirst ((hcut.text_ne_iff (mem_of_getElem? hfirst)).2 hedge)

/-- A line of code ends behind a simple statement, unless a semicolon joins it to the next. -/
theorem endsLine_of_apart {s : Stmt} {below : List Stmt} {a b hi : Nat} (hat : SimpleAt tokens a s b)
    (hend : PartsAt tokens b) (hrest : InOrder tokens (b + 1) below hi) (hbelow : below ≠ [])
    (hapart : ∀ t ∈ below.head?, ¬Joined tokens s t) : EndsLine tokens b := by
  refine hend.resolve_right ?_
  rintro ⟨t, ht, htext⟩
  have hsome : t.text ≠ "" := by rw [htext]; decide
  obtain ⟨x, below, rfl⟩ := List.exists_cons_of_ne_nil hbelow
  obtain ⟨l, last, -, hl, hlast, hlastText, hline, hcolumn⟩ :=
    hat.last hcut (Array.getElem?_eq_some_iff.1 ht).1.le
  obtain ⟨a', first, ha', hfirst, hedge, hline', hcolumn'⟩ := hrest.first_of_mem List.mem_cons_self
  refine hapart x rfl ⟨t, mem_of_getElem? ht, htext, ?_, ?_⟩
  · unfold Span.Before
    rw [hline, hcolumn]
    exact hcut.before hlast hlastText hl ht hsome
  · unfold Span.Before
    rw [hline', hcolumn']
    exact hcut.before ht hsome ha' hfirst ((hcut.text_ne_iff (mem_of_getElem? hfirst)).2 hedge)

/-- The line end behind a simple statement separates it from what stands behind. -/
theorem separates_of_inOrder {above below : List Stmt} {s : Stmt} {lo hi : Nat}
    (h : InOrder tokens lo (above ++ s :: below) hi) (hsimple : ∀ x ∈ above, x.isSimple = true)
    (hs : s.isSimple = true) (hbelow : below ≠ []) (hapart : ∀ t ∈ below.head?, ¬Joined tokens s t) :
    c.line ≤ s.span.endLine ∧ ∃ k, Separates tokens (above ++ [s]) below s.span.endLine k := by
  obtain ⟨a, b, -, hat, hend, hrest, habove⟩ := h.split_simple hs
  have hline := endsLine_of_apart hcut hat hend hrest hbelow hapart
  have hsize : b ≤ tokens.size := Nat.le_of_lt (lt_size_of_token hline)
  obtain ⟨l, last, -, hl, hlast, hlastText, hplace, -⟩ := hat.last hcut hsize
  rw [hplace]
  have hbefore (k : Nat) (t : Token) (hk : k < b) (ht : tokens[k]? = some t) (htext : t.text ≠ "") :
      t.span.endLine ≤ last.span.endLine := by
    obtain ⟨-, -, first, -, -, hspan⟩ := hat
    have hlastSpan : (lastSpan tokens b).endLine = last.span.endLine := by
      rw [← hplace, hspan]
      rfl
    exact hlastSpan ▸ hcut.endLine_le_lastSpan ht htext hk hsize
  have hbehind (k : Nat) (t : Token) (hk : b + 1 ≤ k) (ht : tokens[k]? = some t)
      (htext : t.text ≠ "") : last.span.endLine < t.span.line :=
    hcut.endLine_lt_line hlast hlastText hl hline hk ht htext
  have hfirst := hcut.line_le (mem_of_getElem? hlast) hlastText
  refine ⟨Nat.le_trans hfirst.1 hfirst.2, b + 1, fun x hx => ?_, fun x hx => ?_,
    fun k t hk ht htext => ?_, hbehind, .inr hline⟩
  · rcases List.mem_append.1 hx with hx | hx
    · obtain ⟨a', b', hat', hb'⟩ := habove x hx (hsimple x hx)
      have hab := hat.lt
      obtain ⟨l', last', -, hl', hlast', htext', hplace', -⟩ := hat'.last hcut (by omega)
      rw [hplace']
      exact hbefore l' last' (by omega) hlast' htext'
    · obtain rfl := List.mem_singleton.1 hx
      exact Nat.le_of_eq hplace
  · obtain ⟨a', first, ha', hfirst, hedge, hline', -⟩ := hrest.first_of_mem hx
    rw [hline']
    exact hbehind a' first ha' hfirst ((hcut.text_ne_iff (mem_of_getElem? hfirst)).2 hedge)
  · rcases Nat.lt_succ_iff_lt_or_eq.1 hk with hk | rfl
    · exact hbefore k t hk ht htext
    · -- the end of the line has no text
      obtain ⟨u, hu, hkind⟩ := hline
      obtain rfl := Option.some.inj (hu.symm.trans ht)
      have hnot := (hcut.text_ne_iff (mem_of_getElem? ht)).1 htext
      rw [hkind] at hnot
      exact absurd hnot (by decide)

end

theorem headerEnd_of_nil {tree : List Stmt} (h : preamble tree = []) (lines : List String) :
    headerEnd tree lines = (lines.takeWhile fun line => line.toList.head? = some '#').length := by
  unfold headerEnd
  rw [preambleEnd_eq, h]
  rfl

theorem headerEnd_of_concat {tree above : List Stmt} {s : Stmt} (h : preamble tree = above ++ [s])
    (hpos : 0 < s.span.endLine) (lines : List String) : headerEnd tree lines = s.span.endLine := by
  have hend : preambleEnd tree = s.span.endLine := by
    rw [preambleEnd_eq, h, List.getLast?_concat]
    rfl
  unfold headerEnd
  split
  · omega
  · exact hend

/-- **The place of the imports is one where imports may stand**, if the imports at the top are imports
    from the future, and no semicolon joins them to what stands behind. -/
theorem fits_of_parse {text : String} {tree : List Stmt} (h : Module.parse text = .ok tree)
    (hlevel : ∀ s ∈ preamble tree, s.level = 0) (hbehind : behindPreamble tree ≠ [])
    (hapart : ∀ s ∈ (preamble tree).getLast?, ∀ t ∈ (behindPreamble tree).head?,
      ¬Joined (tokenize 1 (closeLastLine text.toList)).tokens s t)
    {lines : List String} (hkeeps : KeepsLines (Text.codeLines text) lines) :
    FitsImports (tokenize 1 (closeLastLine text.toList)).tokens tree (headerEnd tree lines) := by
  obtain ⟨stop, horder⟩ := inOrder_of_parse h
  have htree := preamble_append tree
  refine ⟨preamble tree, behindPreamble tree, ?_⟩
  rcases List.eq_nil_or_concat' (preamble tree) with hnone | ⟨above, s, hsome⟩
  · -- below comment lines, which do not get more
    obtain ⟨c, hc, hcut⟩ := tokens_below_comments text
    have hle := headerEnd_le tree hkeeps
    rw [headerEnd_of_nil hnone (Text.codeLines text)] at hle
    have hsame : behindPreamble tree = tree := by
      rw [← List.nil_append (behindPreamble tree), ← hnone, htree]
    refine ⟨0, htree.symm, isPreamble_preamble hlevel, ?_⟩
    rw [hnone, hsame]
    exact separates_nil hcut horder (Nat.lt_of_le_of_lt hle hc)
  · have hsimple (x : Stmt) (hx : x ∈ above ++ [s]) : x.isSimple = true :=
      isSimple_of_mem_preamble (hsome ▸ hx)
    rw [← htree, hsome, List.append_assoc] at horder
    obtain ⟨hpos, k, hseparates⟩ := separates_of_inOrder (tokenize_cut 1 _) horder
      (fun x hx => hsimple x (List.mem_append_left [s] hx)) (hsimple s (by simp)) hbehind
      (hapart s (by rw [hsome, List.getLast?_concat]; rfl))
    refine ⟨k, htree.symm, isPreamble_preamble hlevel, ?_⟩
    rw [headerEnd_of_concat hsome hpos, hsome]
    exact hseparates

/-! ## Imports -/

theorem filter_intersperse {lines : List String} (h : ∀ line ∈ lines, line ≠ "") :
    (lines.intersperse "").filter (· ≠ "") = lines := by
  induction lines with
  | nil => rfl
  | cons line lines ih =>
    have hline := h line List.mem_cons_self
    have hrest := ih fun l hl => h l (List.mem_cons_of_mem line hl)
    cases lines with
    | nil => simp [hline]
    | cons next lines =>
      rw [List.intersperse_cons_cons, List.filter_cons_of_pos (by simpa using hline),
        List.filter_cons_of_neg (by simp), hrest]

/-- Apart from empty lines, the lines that are put in are the missing imports. -/
theorem importBlock_lines (tree : List Stmt) (lines : List String) (needsFields : Bool) :
    (importBlock tree lines needsFields).2.filter (· ≠ "") = missingImports tree needsFields := by
  have hsome : ∀ line ∈ missingImports tree needsFields, line ≠ "" := by
    intro line hline
    obtain ⟨n, rfl, -⟩ := mem_missingImports.1 hline
    exact n.line_ne_empty
  unfold importBlock
  dsimp only
  split
  · rename_i hnone
    exact hnone.symm
  · rename_i imports hnonempty
    rw [List.filter_append, List.filter_append, filter_intersperse hsome]
    split <;> split <;> try split
    all_goals simp

theorem missingImports_of_future {tree : List Stmt} {needsFields : Bool}
    (h : futureImport ∈ missingImports tree needsFields) :
    ∃ rest, missingImports tree needsFields = futureImport :: rest := by
  have hlacks : "annotations" ∉ importedNames tree futureModule :=
    mt mem_importedNames.1 (line_mem_missingImports (n := .future).1 h).2
  rw [missingImports, if_neg (by simpa using hlacks)]
  exact ⟨_, rfl⟩

/-! ## The text of an expansion -/

namespace Expansion

variable (e : Expansion) (tree : List Stmt)

/-- Whether a line is above every class that is expanded. -/
def IsAbove (line : Nat) : Prop := ∀ p ∈ e.plans, line < p.declaration.location.line

instance (line : Nat) : Decidable (e.IsAbove line) := inferInstanceAs (Decidable (∀ p ∈ e.plans, _))

/-- A statement of some kind is one of the lines that are put in, or a statement of the module that ends
    above every class that is expanded. -/
def HasAbove (imports : List String) (kind : Stmt → Prop) : Prop :=
  (∃ line ∈ imports, ∃ s, Module.parse line = .ok [s] ∧ kind s) ∨
  ∃ s ∈ tree, kind s ∧ e.IsAbove s.span.endLine

/-- The text of an expansion with the lines `imports` behind the line `place`. They are the missing
    imports, those from the future first, and they stand where imports may and above every class that is
    expanded; and the names that members use are imported above every such class, be it in these lines or
    in the module. -/
structure PutsImports (text : String) (changed : List String) (place : Nat) (imports : List String) :
    Prop where
  changed_eq :
    insertAll (Text.codeLines text) (e.plans.flatMap (·.insertions tree)) = .ok changed
  text_eq : e.text = String.intercalate "\n"
    ((woven place imports (e.plans.map Plan.block) changed).map WovenLine.line) ++ "\n"
  fits : FitsImports (tokenize 1 (closeLastLine text.toList)).tokens tree place
  isAbove : e.IsAbove place
  lines_eq : imports.filter (· ≠ "") =
    missingImports tree (!(e.plans.flatMap (·.insertions tree)).isEmpty)
  future_first : futureImport ∈ imports → ∃ rest, imports.filter (· ≠ "") = futureImport :: rest
  library : ∀ name ∈ runtimeNames,
    e.HasAbove tree imports fun s => name ∈ importedNames [s] libraryModule
  fields : e.plans.flatMap (·.insertions tree) ≠ [] →
    e.HasAbove tree imports fun s => importsModule [s] fieldsModule = true

end Expansion

section
variable {e : Expansion} {tree : List Stmt} {imports : List String} {needsFields : Bool}
  (hput : ∀ line ∈ missingImports tree needsFields, line ∈ imports)
include hput

theorem hasAbove_library
    (habove : ∀ s ∈ tree, (∃ name ∈ runtimeNames, name ∈ importedNames [s] libraryModule) →
      e.IsAbove s.span.endLine) {name : String} (hname : name ∈ runtimeNames) :
    e.HasAbove tree imports fun s => name ∈ importedNames [s] libraryModule := by
  by_cases hmet : Need.library.MetBy tree
  · obtain ⟨s, hs, htakes⟩ := hmet name hname
    have himport : name ∈ importedNames [s] libraryModule :=
      mem_importedNames.2 ⟨s, List.mem_singleton_self s, htakes⟩
    exact .inr ⟨s, hs, himport, habove s hs ⟨name, hname, himport⟩⟩
  · obtain ⟨span, hparse⟩ := Need.library.parse_line
    have hmissing := hput _ (line_mem_missingImports (n := .library).2 ⟨trivial, hmet⟩)
    exact .inl ⟨_, hmissing, _, hparse, mem_importedNames.2
      (Need.metBy_of_mem (n := .library) (List.mem_singleton_self _) name hname)⟩

theorem hasAbove_fields
    (habove : ∀ s ∈ tree, importsModule [s] fieldsModule = true → e.IsAbove s.span.endLine)
    (hneeds : needsFields = true) :
    e.HasAbove tree imports fun s => importsModule [s] fieldsModule = true := by
  by_cases hmet : Need.fields.MetBy tree
  · obtain ⟨s, hs, htakes⟩ := hmet
    have himport : importsModule [s] fieldsModule = true :=
      importsModule_iff.2 ⟨s, List.mem_singleton_self s, htakes⟩
    exact .inr ⟨s, hs, himport, habove s hs himport⟩
  · obtain ⟨span, hparse⟩ := Need.fields.parse_line
    have hmissing := hput _ (line_mem_missingImports (n := .fields).2 ⟨hneeds, hmet⟩)
    exact .inl ⟨_, hmissing, _, hparse, importsModule_iff.2
      (Need.metBy_of_mem (n := .fields) (List.mem_singleton_self _))⟩

end

/-- **Names are bound above the classes that use them, by imports that may stand where they do.** The
    imports at the top of the module are not relative, no semicolon joins them to the statement behind,
    and the imports of the library and of record fields that the module has stand above the classes that
    are expanded. -/
theorem imports_above_classes {filename text : String} {tree : List Stmt} {ds : List Declaration}
    (hread : readModule filename text = .ok (tree, ds)) (hplain : Text.PlainEnds text) {e : Expansion}
    (hexpand : expand filename text = .ok e) (hsuccess : e.success = true) (hplans : e.plans ≠ [])
    (hlevel : ∀ s ∈ preamble tree, s.level = 0)
    (hapart : ∀ s ∈ (preamble tree).getLast?, ∀ t ∈ (behindPreamble tree).head?,
      ¬Joined (tokenize 1 (closeLastLine text.toList)).tokens s t)
    (hlibrary : ∀ s ∈ tree, (∃ name ∈ runtimeNames, name ∈ importedNames [s] libraryModule) →
      e.IsAbove s.span.endLine)
    (hfields : ∀ s ∈ tree, importsModule [s] fieldsModule = true → e.IsAbove s.span.endLine) :
    ∃ changed place imports, e.PutsImports tree text changed place imports := by
  obtain ⟨changed, hchanged, hkeeps, htext, -, hrange⟩ := Expansion.woven_of_read hread
    ((Text.displayLines_eq_codeLines_iff text).2 hplain) hexpand hsuccess hplans
  obtain ⟨hparse, hmodule⟩ := parse_of_readModule hread
  have hbehind : behindPreamble tree ≠ [] := by
    -- a class stands there, since a preamble defines nothing
    intro hnone
    obtain ⟨p, hp⟩ := List.exists_mem_of_ne_nil _ hplans
    obtain ⟨definition, -, hspan, -⟩ := exists_definition hmodule (hrange p hp).1
    rw [← preamble_append tree, hnone, List.append_nil,
      definitionSpans_eq_nil fun s hs => isSimple_of_mem_preamble hs] at hspan
    exact absurd hspan List.not_mem_nil
  generalize hneeds : (!(e.plans.flatMap (·.insertions tree)).isEmpty) = needsFields at htext
  have hlines := importBlock_lines tree changed needsFields
  have hput : ∀ line ∈ missingImports tree needsFields,
      line ∈ (importBlock tree changed needsFields).2 :=
    fun line hline => (List.mem_filter.1 (hlines ▸ hline)).1
  refine ⟨changed, headerEnd tree changed, (importBlock tree changed needsFields).2, ?_⟩
  exact
    { changed_eq := hchanged
      text_eq := importBlock_place tree changed needsFields ▸ htext
      fits := fits_of_parse hparse hlevel hbehind hapart hkeeps
      isAbove := fun p hp => Nat.lt_of_le_of_lt (headerEnd_le tree hkeeps) (hrange p hp).2.1
      lines_eq := hneeds ▸ hlines
      future_first := fun hfuture => by
        rw [hlines]
        exact missingImports_of_future (hlines ▸ List.mem_filter.2 ⟨hfuture, by decide⟩)
      library := fun name hname => hasAbove_library hput hlibrary hname
      fields := fun hsome => hasAbove_fields hput hfields (by simpa [← hneeds] using hsome) }

/-- A description, imports with a semicolon between them, and a record. -/
def notesText : String :=
  "\"\"\"Notes.\"\"\"\nimport dataclasses; import enum\n\n" ++
  "@autolens\n@dataclass(frozen=True)\nclass Note:\n    title: str\n"

theorem imports_above_classes_notes : ∃ tree ds e, readModule sourceName notesText = .ok (tree, ds) ∧
    expand sourceName notesText = .ok e ∧ e.plans ≠ [] ∧
    ∃ changed place imports, e.PutsImports tree notesText changed place imports := by
  have hrun : (readModule sourceName notesText).toOption.any (fun (tree, _) =>
      (expand sourceName notesText).toOption.any fun e =>
        e.success ∧ e.plans ≠ [] ∧
        (∀ s ∈ preamble tree, s.level = 0) ∧
        (∀ s ∈ (preamble tree).getLast?, ∀ t ∈ (behindPreamble tree).head?,
          ¬Joined (tokenize 1 (closeLastLine notesText.toList)).tokens s t) ∧
        (∀ s ∈ tree, (∃ name ∈ runtimeNames, name ∈ importedNames [s] libraryModule) →
          e.IsAbove s.span.endLine) ∧
        ∀ s ∈ tree, importsModule [s] fieldsModule = true → e.IsAbove s.span.endLine) = true := by
    decide +kernel
  cases hread : readModule sourceName notesText with
  | error fault =>
    rw [hread] at hrun
    exact absurd hrun Bool.false_ne_true
  | ok found =>
    cases hexpand : expand sourceName notesText with
    | error fault =>
      rw [hread, hexpand] at hrun
      exact absurd hrun Bool.false_ne_true
    | ok e =>
      rw [hread, hexpand] at hrun
      obtain ⟨hsuccess, hplans, hlevel, hapart, hlibrary, hfields⟩ := of_decide_eq_true hrun
      exact ⟨found.1, found.2, e, rfl, rfl, hplans, imports_above_classes hread (by decide +kernel)
        hexpand hsuccess hplans hlevel hapart hlibrary hfields⟩

end RecordLens
