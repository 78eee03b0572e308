import RecordLens.Expansion.Basic
import RecordLens.Proofs.Lines
import RecordLens.Proofs.Outcome
/-!
What is known of declarations that were read from a text. The indentation of a declaration is the blank
space before a line of the text, or nothing; so no line ends within it.

* `memberOf_cases`, `ofDefinition_cases`: what a statement of a class and a definition declare.
* `ofDefinition_indent`: the indentation is the one found for the body.
* `Declaration.indent_of_parseAll`: the indentations of the declarations of a text.
-/
namespace RecordLens

open Code

/-- A member is declared by an annotation of a name, or by an assignment. No name that it binds is
    reserved, and its modifiers are those of the first name. -/
theorem memberOf_cases {modifiers : String → List String} {s : Stmt} {m : Member}
    (h : memberOf modifiers s = .ok (some m)) :
    (∃ span target id type value text initial,
      s = .annotate span (.name target id) type value ∧ isReserved id = false ∧
      textOf type = .ok text ∧ value.mapM (·.classify) = .ok initial ∧
      m = ⟨[⟨id, true⟩], some text, initial, modifiers id, type.tail? = some "ClassVar", span.line⟩) ∨
    ∃ span targets value bindings initial first,
      s = .assign span targets value ∧ targets.mapM bindingOf = .ok bindings ∧
      (∀ b ∈ bindings, b.isIdentifier = true → isReserved b.text = false) ∧
      value.classify = .ok initial ∧ (∀ name rest, bindings = ⟨name, true⟩ :: rest → first = name) ∧
      m = ⟨bindings, none, some initial, modifiers first, false, span.line⟩ := by
  unfold memberOf at h
  split at h
  next =>
    split at h
    · exact absurd (Except.ok.inj h) nofun
    next hreserved =>
      obtain ⟨text, htext, h⟩ := bind_eq_ok.1 h
      obtain ⟨initial, hinitial, h⟩ := bind_eq_ok.1 h
      obtain rfl := Option.some.inj (Except.ok.inj h)
      exact .inl ⟨_, _, _, _, _, _, _, rfl, Bool.eq_false_iff.2 hreserved, htext, hinitial, rfl⟩
  next =>
    obtain ⟨bindings, hbindings, h⟩ := bind_eq_ok.1 h
    split at h
    · exact absurd (Except.ok.inj h) nofun
    next hreserved =>
      obtain ⟨initial, hinitial, h⟩ := bind_eq_ok.1 h
      obtain rfl := Option.some.inj (Except.ok.inj h)
      refine .inr ⟨_, _, _, _, _, _, rfl, hbindings, fun b hb hname => ?_, hinitial, ?_, rfl⟩
      · rw [← Bool.not_eq_true]
        exact fun hb' => hreserved (List.any_eq_true.2 ⟨b, hb, Bool.and_eq_true_iff.2 ⟨hname, hb'⟩⟩)
      · rintro name rest rfl
        rfl
  · exact absurd (Except.ok.inj h) nofun

/-- A declaration is that of a class, with what its body declares, or that of a function. -/
theorem ofDefinition_cases {filename : String} {rule : IndentRule} {definition : Stmt × String}
    {d : Declaration} (h : Declaration.ofDefinition filename rule definition = .ok (some d)) :
    (∃ span name decorators bases body members signatures indent,
      definition.1 = .classDef span name decorators bases body ∧
      rule.indent filename span name body = .ok indent ∧
      membersOf body = .ok members ∧ signaturesOf body = .ok signatures ∧
      d = ⟨classKind decorators bases, name, members, signatures, definition.2,
        ⟨filename, span.line, span.endLine, span.column, indent⟩⟩) ∨
    ∃ span isAsync name decorators params body indent,
      definition.1 = .functionDef span isAsync name decorators params body ∧
      rule.indent filename span name body = .ok indent ∧
      d = ⟨.function, name, [], [], definition.2,
        ⟨filename, span.line, span.endLine, span.column, indent⟩⟩ := by
  unfold Declaration.ofDefinition at h
  split at h
  · obtain ⟨indent, hindent, h⟩ := bind_eq_ok.1 h
    obtain ⟨members, hmembers, h⟩ := bind_eq_ok.1 h
    obtain ⟨signatures, hsignatures, h⟩ := bind_eq_ok.1 h
    obtain rfl := Option.some.inj (Except.ok.inj h)
    exact .inl ⟨_, _, _, _, _, _, _, _, rfl, hindent, hmembers, hsignatures, rfl⟩
  · obtain ⟨indent, hindent, h⟩ := bind_eq_ok.1 h
    obtain rfl := Option.some.inj (Except.ok.inj h)
    exact .inr ⟨_, _, _, _, _, _, _, rfl, hindent, rfl⟩
  · exact absurd (Except.ok.inj h) (by simp)

/-- The indentation of a declaration is what the rule finds for its body. -/
theorem ofDefinition_indent {filename : String} {rule : IndentRule} {definition : Stmt × String}
    {d : Declaration} (h : Declaration.ofDefinition filename rule definition = .ok (some d)) :
    ∃ head name body, rule.indent filename head name body = .ok d.location.indent := by
  rcases ofDefinition_cases h with ⟨_, _, _, _, _, _, _, _, -, hindent, -, -, rfl⟩ |
    ⟨_, _, _, _, _, _, _, -, hindent, rfl⟩
  · exact ⟨_, _, _, hindent⟩
  · exact ⟨_, _, _, hindent⟩

theorem bodyIndent_eq {filename : String} {head : Span} {name : String} {body : List Stmt}
    {lines : List String} {indent : String}
    (h : bodyIndent filename head name body lines = .ok indent) :
    indent = "" ∨ ∃ l ∈ lines, indent = Text.leadingBlanks l := by
  cases body with
  | nil => exact .inl (Except.ok.inj h).symm
  | cons first rest =>
    simp only [bodyIndent] at h
    split at h
    · exact absurd h (by simp)
    · obtain rfl := Except.ok.inj h
      cases hl : lines[first.span.line - 1]? with
      | none => exact .inl rfl
      | some l => exact .inr ⟨l, List.mem_of_getElem? hl, rfl⟩

namespace Declaration

/-- Every declaration of a module comes from one of the definitions that are looked at. -/
theorem exists_ofDefinition {filename : String} {rule : IndentRule} {tree : List Code.Stmt}
    {ds : List Declaration} (h : ofModule filename rule tree = .ok ds)
    {d : Declaration} (hd : d ∈ ds) :
    ∃ definition ∈ markedDefinitions "" tree,
      ofDefinition filename rule definition = .ok (some d) := by
  obtain ⟨found, hfound, hds⟩ := bind_eq_ok.1 h
  obtain rfl := Except.ok.inj hds
  obtain ⟨x, hx, rfl⟩ := List.mem_filterMap.1 hd
  exact exists_of_mem_mapM hfound hx

/-- The indentation of a declaration is blank space of its text. -/
theorem indent_of_parseAll {filename text : String} {ds : List Declaration}
    (h : parseAll filename text = .ok ds) {d : Declaration} (hd : d ∈ ds) :
    d.location.indent = "" ∨
      ∃ l ∈ Text.displayLines text, d.location.indent = Text.leadingBlanks l := by
  obtain ⟨tree, -, hmodule⟩ := bind_eq_ok.1 h
  obtain ⟨definition, -, hdefinition⟩ := exists_ofDefinition hmodule hd
  obtain ⟨head, name, body, hindent⟩ := ofDefinition_indent hdefinition
  exact bodyIndent_eq hindent

theorem indent_not_ends {filename text : String} {ds : List Declaration}
    (h : parseAll filename text = .ok ds) {d : Declaration} (hd : d ∈ ds) :
    ∀ c ∈ d.location.indent.toList, Text.endsDisplayLine c = false := by
  rcases indent_of_parseAll h hd with hempty | ⟨l, hl, hindent⟩
  · rw [hempty]
    simp
  · obtain ⟨cs, hcs, rfl⟩ := List.mem_map.1 hl
    intro c hc
    rw [hindent, Text.leadingBlanks, String.toList_ofList, String.toList_ofList] at hc
    exact Text.not_ends_of_mem_cutLines _ cs hcs c ((List.takeWhile_prefix _).subset hc)

end Declaration
end RecordLens
