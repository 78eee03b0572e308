import RecordLens.Proofs.ImportPlace
import RecordLens.Proofs.Places
/-!
Which imports are put in. A line is put in for every need that a module does not meet. The module with the
statements of these lines meets all that was needed, so another run puts in nothing, unless it is the first
one that needs the module of record fields; then it puts in the import of this module alone.

* `insertedImports`: the lines that are put in, without the empty ones around them.
* `PutIn`: a module with more statements at its top level.
* `PutIn.metBy_iff`: what a module meets with the statements of these lines.
* `Runs.once`: what any number of runs put in.
* `imports_complete_and_stable`: the imports of one run, and those of the next.
-/
namespace RecordLens

open Code

variable {tree tree' added : List Stmt} {needsFields again : Bool} {n : Need}

/-! ## Imports that are put in -/

/-- The imports that are put in: the lines without the empty ones around them. -/
def insertedImports (tree : List Stmt) (lines : List String) (needsFields : Bool) : List String :=
  (importBlock tree lines needsFields).2.filter (· ≠ "")

theorem insertedImports_eq (tree : List Stmt) (lines : List String) (needsFields : Bool) :
    insertedImports tree lines needsFields = missingImports tree needsFields :=
  importBlock_lines tree lines needsFields

theorem importBlock_of_nil (lines : List String) (h : missingImports tree needsFields = []) :
    importBlock tree lines needsFields = (headerEnd tree lines, []) := by
  rw [importBlock, h]

theorem exists_need : ∀ line ∈ missingImports tree needsFields, ∃ n : Need, n.line = line := by
  intro line hline
  obtain ⟨n, hn, -⟩ := mem_missingImports.1 hline
  exact ⟨n, hn⟩

/-- The statements of lines of code, one for each line. -/
def AreRead (lines : List String) (ss : List Stmt) : Prop :=
  List.Forall₂ (fun line s => Module.parse line = .ok [s]) lines ss

theorem exists_areRead {lines : List String} (h : ∀ line ∈ lines, ∃ n : Need, n.line = line) :
    ∃ ss, AreRead lines ss := by
  induction lines with
  | nil => exact ⟨[], .nil⟩
  | cons line lines ih =>
    obtain ⟨hline, hlines⟩ := List.forall_mem_cons.1 h
    obtain ⟨n, rfl⟩ := hline
    obtain ⟨span, hspan⟩ := n.parse_line
    obtain ⟨ss, hss⟩ := ih hlines
    exact ⟨n.statement span :: ss, .cons hspan hss⟩

/-- A line for a need is read as its statement and nothing else. -/
theorem eq_statement_of_parse {s : Stmt} (h : Module.parse n.line = .ok [s]) :
    ∃ span, s = n.statement span := by
  obtain ⟨span, hspan⟩ := n.parse_line
  exact ⟨span, (List.cons.inj (Except.ok.inj (h.symm.trans hspan))).1⟩

theorem AreRead.exists_of_mem {lines : List String} (h : AreRead lines added)
    (hlines : ∀ line ∈ lines, ∃ n : Need, n.line = line) {s : Stmt} (hs : s ∈ added) :
    ∃ n span, n.line ∈ lines ∧ s = Need.statement span n := by
  induction h with
  | nil => exact absurd hs List.not_mem_nil
  | cons ht _ ih =>
    obtain ⟨⟨n, rfl⟩, hrest⟩ := List.forall_mem_cons.1 hlines
    rcases List.mem_cons.1 hs with rfl | hs
    · obtain ⟨span, hspan⟩ := eq_statement_of_parse ht
      exact ⟨n, span, List.mem_cons_self, hspan⟩
    · obtain ⟨k, span, hk, hspan⟩ := ih hrest hs
      exact ⟨k, span, List.mem_cons_of_mem _ hk, hspan⟩

theorem AreRead.exists_statement {lines : List String} (h : AreRead lines added)
    (hn : n.line ∈ lines) : ∃ span, n.statement span ∈ added := by
  generalize hline : n.line = line at hn
  induction h with
  | nil => exact absurd hn List.not_mem_nil
  | cons ht _ ih =>
    rcases List.mem_cons.1 hn with rfl | hn
    · subst hline
      obtain ⟨span, rfl⟩ := eq_statement_of_parse ht
      exact ⟨span, List.mem_cons_self⟩
    · obtain ⟨span, hspan⟩ := ih hn
      exact ⟨span, List.mem_cons_of_mem _ hspan⟩

/-! ## Modules with these imports -/

/-- A module with more statements at its top level, wherever they are put. Statements may have moved to other
    places of the text. -/
def PutIn (added tree tree' : List Stmt) : Prop := ∃ above below, tree = above ++ below ∧
  tree'.map (·.unplaced) = (above ++ added ++ below).map (·.unplaced)

theorem putIn_preamble (added tree : List Stmt) :
    PutIn added tree (preamble tree ++ added ++ behindPreamble tree) :=
  ⟨preamble tree, behindPreamble tree, (preamble_append tree).symm, rfl⟩

section
variable {module name : String} {s : Stmt}

theorem takesName_unplaced : TakesName module name s.unplaced ↔ TakesName module name s := by
  cases s with
  | importFrom span level m names => exact ⟨fun | .mk h => .mk h, fun | .mk h => .mk h⟩
  | _ => exact ⟨nofun, nofun⟩

theorem takesModule_unplaced : TakesModule module s.unplaced ↔ TakesModule module s := by
  cases s with
  | importModules span names => exact ⟨fun | .mk h => .mk h, fun | .mk h => .mk h⟩
  | _ => exact ⟨nofun, nofun⟩

end

/-- What statements do wherever they stand, one does in the module or one that was put in. -/
theorem PutIn.exists_iff {P : Stmt → Prop} (hP : ∀ {s : Stmt}, P s.unplaced ↔ P s)
    (h : PutIn added tree tree') : (∃ s ∈ tree', P s) ↔ (∃ s ∈ tree, P s) ∨ ∃ s ∈ added, P s := by
  obtain ⟨above, below, rfl, hmap⟩ := h
  have hplaces (ss : List Stmt) : (∃ s ∈ ss, P s) ↔ ∃ s ∈ ss.map (·.unplaced), P s := by
    constructor
    · rintro ⟨s, hs, h⟩
      exact ⟨_, List.mem_map_of_mem hs, hP.2 h⟩
    · rintro ⟨_, hmap, h⟩
      obtain ⟨s, hs, rfl⟩ := List.mem_map.1 hmap
      exact ⟨s, hs, hP.1 h⟩
  rw [hplaces tree', hmap, ← hplaces]
  simp only [List.mem_append, or_and_right, exists_or]
  exact or_right_comm

theorem PutIn.metBy (h : PutIn added tree tree') (hmet : n.MetBy tree ∨ n.MetBy added) :
    n.MetBy tree' := by
  cases n with
  | future => exact (h.exists_iff takesName_unplaced).2 hmet
  | fields => exact (h.exists_iff takesModule_unplaced).2 hmet
  | library =>
    intro name hname
    exact (h.exists_iff takesName_unplaced).2 (hmet.imp (· name hname) (· name hname))

/-- **With the imports that are put in, a module meets what was needed**, and nothing else that it did not
    meet. -/
theorem PutIn.metBy_iff (hadded : AreRead (missingImports tree needsFields) added)
    (hput : PutIn added tree tree') : n.MetBy tree' ↔ n.MetBy tree ∨ n.Needed needsFields := by
  constructor
  · intro h
    -- only the import of record fields may not be needed, and no other line brings it in
    cases n with
    | fields =>
      refine ((hput.exists_iff takesModule_unplaced).1 h).imp_right fun ⟨s, hs, htakes⟩ => ?_
      obtain ⟨n, span, hn, rfl⟩ := hadded.exists_of_mem exists_need hs
      obtain rfl := Need.eq_fields_of_takesModule htakes
      exact (line_mem_missingImports.1 hn).1
    | future => exact .inr trivial
    | library => exact .inr trivial
  · intro h
    by_cases hmet : n.MetBy tree
    · exact hput.metBy (.inl hmet)
    · have hmissing := line_mem_missingImports.2 ⟨h.resolve_left hmet, hmet⟩
      obtain ⟨span, hspan⟩ := hadded.exists_statement hmissing
      exact hput.metBy (.inr (Need.metBy_of_mem hspan))

/-- What the next run lacks: only what it needs for the first time. -/
theorem PutIn.line_mem_iff (hadded : AreRead (missingImports tree needsFields) added)
    (hput : PutIn added tree tree') : n.line ∈ missingImports tree' again ↔
      n.Needed again ∧ ¬n.Needed needsFields ∧ ¬n.MetBy tree := by
  rw [line_mem_missingImports, hput.metBy_iff hadded, not_or, and_comm (a := ¬n.MetBy tree)]

theorem Need.eq_fields_of_needed (h : n.Needed again) (hnot : ¬n.Needed needsFields) :
    n = .fields ∧ again = true ∧ needsFields = false := by
  cases n with
  | fields => exact ⟨rfl, h, Bool.not_eq_true _ ▸ hnot⟩
  | future => exact absurd trivial hnot
  | library => exact absurd trivial hnot

/-! ## Any number of runs -/

/-- Runs one after the other, each with needs of its own: the lines that they put in, and the module in the
    end. -/
inductive Runs (tree : List Stmt) : List String → List Stmt → Prop
  | none : Runs tree [] tree
  | again {before : List String} {mid added tree' : List Stmt} {needsFields : Bool} (lines : List String)
      (hbefore : Runs tree before mid) (hadded : AreRead (insertedImports mid lines needsFields) added)
      (hput : PutIn added mid tree') :
      Runs tree (before ++ insertedImports mid lines needsFields) tree'

/-- **However often a module is expanded, no import is put in twice**, and only for what it did not name. -/
theorem Runs.once {lines : List String} (h : Runs tree lines tree') : lines.Nodup ∧
    ∀ line ∈ lines, ∃ n : Need, n.line = line ∧ ¬n.MetBy tree ∧ n.MetBy tree' := by
  -- what a module names it names after every run, so later runs do not put it in
  suffices (lines.Nodup ∧ ∀ line ∈ lines, ∃ n : Need, n.line = line ∧ ¬n.MetBy tree ∧ n.MetBy tree') ∧
      ∀ n : Need, n.MetBy tree → n.MetBy tree' from this.1
  induction h with
  | none => exact ⟨⟨List.nodup_nil, nofun⟩, fun _ hmet => hmet⟩
  | @again before mid added tree' needsFields lines _ hadded hput ih =>
    obtain ⟨⟨hnodup, hbefore⟩, hkeeps⟩ := ih
    rw [insertedImports_eq] at hadded ⊢
    refine ⟨⟨?_, fun line hline => ?_⟩, fun n hmet => hput.metBy (.inl (hkeeps n hmet))⟩
    · refine List.nodup_append.2 ⟨hnodup, missingImports_nodup mid needsFields, ?_⟩
      rintro line hline _ hmissing rfl
      obtain ⟨n, rfl, -, hmet⟩ := hbefore line hline
      exact (line_mem_missingImports.1 hmissing).2 hmet
    · rcases List.mem_append.1 hline with hline | hline
      · obtain ⟨n, hn, hnot, hmet⟩ := hbefore line hline
        exact ⟨n, hn, hnot, hput.metBy (.inl hmet)⟩
      · obtain ⟨n, rfl, hneeded, hnot⟩ := mem_missingImports.1 hline
        exact ⟨n, rfl, mt (hkeeps n) hnot, (hput.metBy_iff hadded).2 (.inr hneeded)⟩

/-! ## A run and the next -/

/-- **Imports are put in for what is needed and not named, and the next run puts in none.** One line is put
    in for each need that the imports of the module do not meet, taken together, and nothing else. The module
    with the statements of these lines, behind its description and its imports from the future or anywhere
    else, gets no line from the next run; but if only the next run needs the module of record fields, and
    the module does not import it, this import is put in alone. -/
theorem imports_complete_and_stable (tree : List Stmt) (lines : List String) (needsFields : Bool) :
    (∀ n : Need, n.line ∈ insertedImports tree lines needsFields ↔
      n.Needed needsFields ∧ ¬n.MetBy tree) ∧
    (insertedImports tree lines needsFields).Sublist [futureImport, fieldsImport, runtimeImport] ∧
    ∃ added, AreRead (insertedImports tree lines needsFields) added ∧
      PutIn added tree (preamble tree ++ added ++ behindPreamble tree) ∧
      ∀ tree', PutIn added tree tree' → ∀ (lines' : List String) (again : Bool),
        ((again = true → needsFields = true ∨ NamesModule tree fieldsModule) →
          importBlock tree' lines' again = (headerEnd tree' lines', [])) ∧
        (again = true → needsFields = false → ¬NamesModule tree fieldsModule →
          insertedImports tree' lines' again = [fieldsImport]) := by
  rw [insertedImports_eq]
  obtain ⟨added, hadded⟩ := exists_areRead (@exists_need tree needsFields)
  refine ⟨fun n => line_mem_missingImports, missingImports_sublist tree needsFields, added, hadded,
    putIn_preamble added tree, fun tree' hput lines' again => ⟨fun hneeds => ?_, fun hagain hfirst hlacks => ?_⟩⟩
  · refine importBlock_of_nil lines' (List.eq_nil_iff_forall_not_mem.2 fun line hline => ?_)
    obtain ⟨n, rfl, -⟩ := mem_missingImports.1 hline
    obtain ⟨hneeded, hnot, hmet⟩ := (hput.line_mem_iff hadded).1 hline
    obtain ⟨rfl, hagain, hfirst⟩ := Need.eq_fields_of_needed hneeded hnot
    exact (hneeds hagain).elim hnot hmet
  · rw [insertedImports_eq]
    have hnotNeeded : ¬Need.fields.Needed needsFields := by
      rw [hfirst]
      exact Bool.false_ne_true
    have hmem (line : String) : line ∈ missingImports tree' again ↔ line ∈ [fieldsImport] := by
      rw [List.mem_singleton]
      constructor
      · intro hline
        obtain ⟨n, rfl, -⟩ := mem_missingImports.1 hline
        obtain ⟨hneeded, hnot, -⟩ := (hput.line_mem_iff hadded).1 hline
        exact congrArg Need.line (Need.eq_fields_of_needed hneeded hnot).1
      · rintro rfl
        exact (hput.line_mem_iff (n := .fields) hadded).2 ⟨hagain, hnotNeeded, hlacks⟩
    have hnodup := missingImports_nodup tree' again
    exact List.perm_singleton.1
      ((List.perm_ext_iff_of_nodup hnodup (List.nodup_singleton _)).2 hmem)

end RecordLens
