import RecordLens.Proofs.ClassPlaces
import RecordLens.Proofs.ConstructorNames
import RecordLens.Proofs.DeclaredDefinitions
import RecordLens.Proofs.Insertions
import RecordLens.Proofs.MemberTexts
import RecordLens.Proofs.Reading
import RecordLens.Proofs.UnifiedGrammar
/-!
An expansion holds carriage returns only if its text does. The lines of a text hold none, whatever they
end with. What is put into them and between them is made of names and types that were read from the
text, of the indentation of its lines, and of texts that are always the same.

* `Declaration.Unified`, `unified_of_readModule`: what declarations are made of.
* `Plan.Unified`: what is generated is made of this; `Plan.Unified.memberLines`: the lines.
* `expandLines_yields`: the lines of an expansion.
* `expand_yields`: its text.
-/
namespace RecordLens

open Code
open Text (AllUnified unified_append unified_ite)

/-! ## Members -/

theorem textOf_yields {e : Expr} (h : e.Unified) : Yields (textOf e) Text.Unified :=
  (h false .test).mapError

theorem Code.Expr.Unified.of_name {span : Span} {id : String} (h : (Expr.name span id).Unified) :
    Text.Unified id := by
  have hwrite : Expr.write false .test (.name span id) = .ok id := by rw [Expr.write]
  exact h false .test id hwrite

/-- What a member is made of. -/
structure Member.Unified (m : Member) : Prop where
  bindings : ∀ b ∈ m.bindings, Text.Unified b.text
  writtenType : ∀ type ∈ m.writtenType, Text.Unified type

theorem bindingOf_yields {e : Expr} (h : e.Unified) :
    Yields (bindingOf e) fun b => Text.Unified b.text := by
  unfold bindingOf
  split
  · exact .ok h.of_name
  · exact (textOf_yields h).bind fun _ htext => .ok htext

theorem memberOf_yields (modifiers : String → List String) {s : Stmt} (h : s.Unified) :
    Yields (memberOf modifiers s) fun m? => ∀ m ∈ m?, m.Unified := by
  unfold memberOf
  split
  · have hid := h.1.of_name
    split
    · exact .ok nofun
    · -- the value of a member is not written, so it does not matter what it holds
      refine (textOf_yields h.2).bind fun type htype => .past fun value => .ok fun m hm => ?_
      obtain rfl := Option.some.inj hm
      exact ⟨List.forall_mem_singleton.2 hid, fun _ ht => Option.some.inj ht ▸ htype⟩
  · refine (Yields.mapM fun e he => bindingOf_yields (h e he)).bind fun bindings hbindings => ?_
    split
    · exact .ok nofun
    · refine .past fun value => .ok fun m hm => ?_
      obtain rfl := Option.some.inj hm
      exact ⟨hbindings, nofun⟩
  · exact .ok nofun

theorem membersOf_yields {body : List Stmt} (h : ∀ s ∈ body, s.Unified) :
    Yields (membersOf body) fun ms => ∀ m ∈ ms, m.Unified := by
  refine (Yields.mapM fun s hs => memberOf_yields _ (h s hs)).bind fun found hfound => .ok ?_
  intro m hm
  obtain ⟨m?, hmem, heq⟩ := List.mem_filterMap.1 hm
  exact hfound m? hmem m heq

/-! ## Declarations -/

theorem unified_qualify {outer name : String} (houter : Text.Unified outer)
    (hname : Text.Unified name) : Text.Unified (qualify outer name) :=
  unified_ite hname (by simp +decide [houter, hname])

theorem unified_givenName {s : Stmt} (h : s.Unified) : Text.Unified s.givenName := by
  cases s with
  | classDef => exact h.1
  | functionDef => exact h
  | _ => exact (by decide : Text.Unified "")

theorem unified_of_marked {outer : String} (houter : Text.Unified outer) {ss : List Stmt}
    (h : ∀ s ∈ ss, s.Unified) : ∀ x ∈ markedDefinitions outer ss, x.1.Unified ∧ Text.Unified x.2 := by
  intro x hx
  refine (forall_marked h ?_ houter ?_ x hx).2
  · rintro (_ | _) hclass hs
    · exact unifiedEach_iff.1 hs.2
    all_goals exact absurd hclass Bool.false_ne_true
  · exact fun _ _ hname hs => unified_qualify hname (unified_givenName hs)

theorem unified_leadingBlanks {line : String} (h : Text.Unified line) :
    Text.Unified (Text.leadingBlanks line) :=
  Text.unified_ofList.2 fun hmem => h (List.takeWhile_subset _ hmem)

theorem bodyIndent_yields {filename name : String} {head : Span} {body : List Stmt}
    {lines : List String} (h : AllUnified lines) :
    Yields (bodyIndent filename head name body lines) Text.Unified := by
  unfold bodyIndent
  split
  · exact .ok (by decide)
  next first rest =>
  split
  · exact .error _
  refine .ok ?_
  generalize hline : lines[first.span.line - 1]? = line?
  cases line? with
  | none => decide
  | some line => exact unified_leadingBlanks (h line (List.mem_of_getElem? hline))

/-- What is written of a declaration. -/
structure Declaration.Unified (d : Declaration) : Prop where
  path : Text.Unified d.path
  members : ∀ m ∈ d.members, m.Unified
  indent : Text.Unified d.location.indent

theorem Declaration.unified_of_definition {filename : String} {lines : List String}
    (hlines : AllUnified lines) {definition : Stmt × String} (hbody : definition.1.Unified)
    (hpath : Text.Unified definition.2) {d : Declaration}
    (h : Declaration.ofDefinition filename (.measured lines) definition = .ok (some d)) :
    d.Unified := by
  rcases ofDefinition_cases h with
    ⟨span, name, decorators, bases, body, members, _, indent, hclass, hindent, hmembers, -, rfl⟩ |
    ⟨span, _, name, _, _, body, indent, hfunction, hindent, rfl⟩
  · rw [hclass] at hbody
    exact ⟨unified_ite hbody.1 hpath, membersOf_yields (unifiedEach_iff.1 hbody.2) members hmembers,
      bodyIndent_yields hlines indent hindent⟩
  · rw [hfunction] at hbody
    exact ⟨unified_ite hbody hpath, nofun, bodyIndent_yields hlines indent hindent⟩

/-- The declarations of a text are made of its tokens and of the blanks in its lines. -/
theorem unified_of_readModule {filename text : String} {tree : List Stmt} {ds : List Declaration}
    (hread : readModule filename text = .ok (tree, ds)) : ∀ d ∈ ds, d.Unified := by
  obtain ⟨hparse, hmodule⟩ := parse_of_readModule hread
  intro d hd
  obtain ⟨definition, hmarked, hof⟩ := Declaration.exists_ofDefinition hmodule hd
  obtain ⟨hbody, hpath⟩ := unified_of_marked (by decide) (unified_of_parse hparse) _ hmarked
  exact Declaration.unified_of_definition (fun _ => Text.unified_of_mem_displayLines) hbody hpath hof

/-! ## Plans -/

/-- A field whose texts are unified. -/
structure Field.Unified (f : Field) : Prop where
  name : Text.Unified f.name
  type : Text.Unified f.type

theorem ValueKind.unified_typeName {kind : ValueKind} {type : String}
    (h : kind.typeName? = some type) : Text.Unified type := by
  cases kind with
  | other => exact absurd h nofun
  | _ =>
    rw [← Option.some.inj h]
    decide

theorem Member.Unified.resolvedType {m : Member} (h : m.Unified) {type : String} {inferred : Bool}
    (hresolved : m.resolvedType? = some (type, inferred)) : Text.Unified type := by
  have hvalue (hvalue : resolvedType?.fromValue m = some (type, inferred)) : Text.Unified type := by
    obtain ⟨kind, hkind⟩ := typeName_of_fromValue hvalue
    exact ValueKind.unified_typeName hkind
  unfold resolvedType? at hresolved
  split at hresolved
  next written hwritten =>
    split at hresolved
    · exact hvalue hresolved
    · obtain ⟨rfl, -⟩ := Prod.mk.inj (Option.some.inj hresolved)
      exact h.writtenType _ hwritten
  · exact hvalue hresolved

theorem Member.Unified.field {m : Member} (h : m.Unified) {f : Field}
    (hf : m.outcome.field? = some f) : f.Unified := by
  unfold outcome at hf
  split at hf
  · exact absurd hf nofun
  split at hf
  · exact absurd hf nofun
  next name hname =>
    split at hf
    · exact absurd hf nofun
    next type inferred hresolved =>
      obtain rfl := Option.some.inj hf
      refine ⟨?_, h.resolvedType hresolved⟩
      unfold name? at hname
      split at hname
      next b hb =>
        split at hname
        · obtain rfl := Option.some.inj hname
          exact h.bindings b (hb ▸ List.mem_singleton_self b)
        · exact absurd hname nofun
      · exact absurd hname nofun

/-- What is written of a plan. -/
structure Plan.Unified (p : Plan) : Prop where
  path : Text.Unified p.path
  fields : ∀ f ∈ p.fields, f.Unified
  arguments : ∀ name ∈ p.usableSignature.names, Text.Unified name
  indent : Text.Unified p.declaration.location.indent

theorem Declaration.Unified.plan {d : Declaration} (h : d.Unified) {p : Plan}
    (hp : d.plan? = some p) : p.Unified := by
  have hconsistent := Plan.consistent_of_plan? hp
  obtain rfl := plan?_eq_some hp
  have hfields : ∀ f ∈ d.fields, f.Unified := by
    intro f hf
    obtain ⟨m, hm, hfield⟩ := List.mem_filterMap.1 hf
    exact (h.members m hm).field hfield
  refine ⟨h.path, hfields, ?_, h.indent⟩
  -- whichever constructor setters call, its parameters are called like the fields
  rw [Plan.usableSignature_names hconsistent]
  intro name hname
  obtain ⟨f, hf, rfl⟩ := List.mem_map.1 hname
  exact (hfields f hf).name

/-! ## Generated members -/

namespace Plan.Unified

variable {p : Plan} (h : p.Unified)
include h

theorem writtenTexts : AllUnified p.writtenTexts := by
  unfold Plan.writtenTexts
  refine .append (.append (.cons h.path ?_) ?_) ?_
  · refine List.forall_mem_flatMap.2 fun f hf => ?_
    have hfield := h.fields f (List.mem_filter.1 hf).1
    exact AllUnified.cons hfield.name (.singleton hfield.type)
  · split
    · refine List.forall_mem_flatMap.2 fun x hx => ?_
      obtain ⟨f, hf, rfl⟩ := List.mem_map.1 hx
      have hfield := h.fields f hf
      exact AllUnified.cons hfield.name (.singleton hfield.type)
    · exact .nil
  · refine List.forall_mem_flatMap.2 fun l hl => ?_
    obtain ⟨f, -, rfl⟩ := List.mem_map.1 hl
    refine List.forall_mem_map.2 fun a ha => ?_
    obtain ⟨name, hname, rfl⟩ := List.mem_map.1 ha
    exact h.arguments name hname

theorem memberLines : AllUnified (p.memberLines p.declaration.location.indent) :=
  lacks_memberLines (by decide) h.writtenTexts h.indent

end Plan.Unified

/-! ## Insertions -/

theorem Plan.Unified.insertions {p : Plan} (h : p.Unified) {tree : List Stmt} {i : Insertion}
    (hi : i ∈ p.insertions tree) : Text.Unified i.text := by
  obtain ⟨_, _, _, _, _, _, f, _, _, hf, _, rfl | rfl | rfl⟩ := exists_of_mem_insertions hi
  · exact unified_append.2 ⟨by decide, (h.fields f hf).type⟩
  · exact show Text.Unified "dataclasses.field(default=" by decide
  · exact show Text.Unified ", kw_only=True)" by decide

theorem insertInto_yields {lines : List String} (hlines : AllUnified lines) {i : Insertion}
    (hi : Text.Unified i.text) : Yields (insertInto lines i) AllUnified := by
  unfold insertInto
  split
  · exact .ok hlines
  next line hline =>
    split
    next new hnew =>
      obtain ⟨⟨front, back⟩, hcut, rfl⟩ := Option.map_eq_some_iff.1 hnew
      have hparts : '\r' ∉ front ++ back := by
        rw [cutAtByte_append hcut]
        exact hlines line (List.mem_of_getElem? hline)
      -- the line is cut in two and the text stands between the parts
      refine .ok fun s hs => ?_
      rcases List.mem_or_eq_of_mem_set hs with hold | rfl
      · exact hlines s hold
      · rw [List.mem_append, not_or] at hparts
        rw [Text.unified_ofList, List.mem_append, List.mem_append, not_or, not_or]
        exact ⟨⟨hparts.1, hi⟩, hparts.2⟩
    · exact .error _

theorem insertAll_yields {lines : List String} (hlines : AllUnified lines) {is : List Insertion}
    (his : ∀ i ∈ is, Text.Unified i.text) : Yields (insertAll lines is) AllUnified :=
  Yields.foldlM (fun i hi _ hls => insertInto_yields hls (his i (List.mem_mergeSort.1 hi))) hlines

/-! ## Blocks -/

theorem Text.AllUnified.insertLines {lines block : List String} (hlines : AllUnified lines)
    (hblock : AllUnified block) (place : Nat) : AllUnified (insertLines lines place block) :=
  (AllUnified.append (fun s hs => hlines s (List.mem_of_mem_take hs)) hblock).append
    fun s hs => hlines s (List.mem_of_mem_drop hs)

theorem Text.AllUnified.splice {lines : List String} (hlines : AllUnified lines)
    {blocks : List (Block String)} (hblocks : ∀ b ∈ blocks, AllUnified b.content) :
    AllUnified (splice lines blocks) :=
  List.foldlRecOn _ _ hlines fun _ hls b hb =>
    hls.insertLines (hblocks b (List.mem_mergeSort.1 hb)) b.endLine

theorem Text.AllUnified.intersperse {separator : String} (hseparator : Text.Unified separator)
    {texts : List String} (h : AllUnified texts) : AllUnified (texts.intersperse separator) := by
  induction texts with
  | nil => exact .nil
  | cons s texts ih =>
    obtain ⟨hs, htexts⟩ := List.forall_mem_cons.1 h
    cases texts with
    | nil => exact h
    | cons t texts =>
      rw [List.intersperse_cons_cons]
      exact .cons hs (.cons hseparator (ih htexts))

theorem allUnified_missingImports (tree : List Stmt) (needsFields : Bool) :
    AllUnified (missingImports tree needsFields) := by
  have hif {c : Prop} [Decidable c] {imports others : List String} (himports : AllUnified imports)
      (hothers : AllUnified others) : AllUnified (if c then imports else others) := by
    split
    · exact himports
    · exact hothers
  exact (AllUnified.append (hif .nil (.singleton (by decide)))
    (hif (.singleton (by decide)) .nil)).append (hif .nil (.singleton (by decide)))

theorem allUnified_importBlock (tree : List Stmt) (lines : List String) (needsFields : Bool) :
    AllUnified (importBlock tree lines needsFields).2 := by
  have himports := allUnified_missingImports tree needsFields
  unfold importBlock
  dsimp only
  split
  · exact .nil
  · refine (AllUnified.append ?_ (himports.intersperse (by decide))).append ?_
    · split
      · exact .singleton (by decide)
      · exact .nil
    · split
      · split
        · exact .nil
        · exact .singleton (by decide)
      · exact .singleton (by decide)

/-! ## Expansions -/

theorem expandLines_yields {tree : List Stmt} {lines : List String} (hlines : AllUnified lines)
    {plans : List Plan} (hplans : ∀ p ∈ plans, p.Unified) :
    Yields (expandLines tree lines plans) AllUnified := by
  intro new hnew
  obtain ⟨changed, hchanged, rfl⟩ := expandLines_ok hnew
  have hunified : AllUnified changed := by
    refine insertAll_yields hlines ?_ changed hchanged
    exact List.forall_mem_flatMap.2 fun p hp i hi => (hplans p hp).insertions hi
  refine (hunified.splice ?_).insertLines (allUnified_importBlock _ _ _) _
  exact List.forall_mem_map.2 fun p hp => (hplans p hp).memberLines

/-- **An expansion holds no carriage return** if its text holds none. -/
theorem expand_yields {filename source : String} (hsource : Text.Unified source) :
    Yields (expand filename source) fun e => Text.Unified e.text := by
  intro e he
  obtain ⟨ds, hparse⟩ := parseAll_of_expand he
  obtain ⟨-, ⟨-, htext⟩ | ⟨-, -, tree, lines, hlines, htext⟩⟩ := expand_ok hparse he
  · rwa [htext]
  · have hplans : ∀ p ∈ e.plans, p.Unified := by
      intro p hp
      obtain ⟨ds, hparse, hd, hplan⟩ := plan?_of_expand he hp
      obtain ⟨tree, hread⟩ := readModule_of_parseAll hparse
      exact (unified_of_readModule hread _ hd).plan hplan
    have hall := expandLines_yields (fun _ => Text.unified_of_mem_displayLines) hplans lines hlines
    rw [htext]
    exact unified_append.2 ⟨Text.unified_intercalate (by decide) hall, by decide⟩

end RecordLens
