import RecordLens.Proofs.FieldInsertions
import RecordLens.Proofs.Preservation
import RecordLens.Proofs.WrittenTypes
/-!
Which statements the plans of a module change. Classes are found again by the lines of their heads, and
fields by their lines and names. Where the heads of classes stand on different lines and the members of
a class have different names, both ways lead back to where the field came from: exactly the
assignments of literals are changed, each by the type of its own value.

* `typedInsertions`: what an assignment of a literal to one name is changed by, whatever the plan.
* `insertionsFor_eq_typed`: a plan changes a statement of its class by just that.
* `typedBy_of_inferredFieldOf`, `exists_inferredFieldOf`: the statements that declare an inferred field
  are those that are changed.
* `insertions_eq_typed`: the insertions of all plans, field by field.
-/
namespace RecordLens

open Code

/-! ## Statements that are changed -/

/-- The insertions that write out the type of an assignment. -/
def typingOf (target : Span) (value : Expr) (type : String) : List Insertion :=
  [⟨target.endLine, target.endColumn, ": " ++ type⟩,
   ⟨value.span.line, value.span.column, "dataclasses.field(default="⟩,
   ⟨value.span.endLine, value.span.endColumn, ", kw_only=True)"⟩]

/-- What a statement is changed by if it assigns a literal to one name that is not reserved; any other
    statement stays as it is. -/
def typedInsertions : Stmt → List Insertion
  | .assign _ [.name target id] value =>
    if isReserved id then []
    else
      match value.valueKind.typeName? with
      | some type => typingOf target value type
      | none => []
  | _ => []

/-- A statement assigns the value of an inferred field to its name, and it is changed by the type of that
    field. -/
def Field.TypedBy (f : Field) (s : Stmt) : Prop :=
  ∃ span target value, s = .assign span [.name target f.name] value ∧ f.line = span.line ∧
    typedInsertions s = typingOf target value f.type

/-! ## Members of a body -/

theorem eq_of_nodup_filterMap {α β : Type} {f : α → Option β} {l : List α}
    (h : (l.filterMap f).Nodup) {x y : α} (hx : x ∈ l) (hy : y ∈ l) {b : β} (hfx : f x = some b)
    (hfy : f y = some b) : x = y := by
  -- the two places are split off one after the other; if they were two, `b` would be there twice
  by_contra hne
  obtain ⟨front, back, rfl⟩ := List.append_of_mem hx
  rw [List.filterMap_append, List.filterMap_cons_some hfx, List.nodup_middle, List.nodup_cons,
    List.mem_append] at h
  rcases List.mem_append.1 hy with hy | hy
  · exact h.1 (.inl (List.mem_filterMap.2 ⟨y, hy, hfy⟩))
  · have hback := (List.mem_cons.1 hy).resolve_left (Ne.symm hne)
    exact h.1 (.inr (List.mem_filterMap.2 ⟨y, hback, hfy⟩))

theorem inferredFieldOf_of_memberOf {modifiers : String → List String} {s : Stmt}
    {m : Option Member} (h : memberOf modifiers s = .ok m) :
    inferredFieldOf modifiers s = (m.bind (·.outcome.field?)).filter (·.inferred) := by
  rw [inferredFieldOf, h]
  cases m <;> rfl

section
variable {body : List Stmt} {members : List Member} (h : membersOf body = .ok members)
include h

theorem exists_memberOf {s : Stmt} (hs : s ∈ body) :
    ∃ m, memberOf (modifiersOf body) s = .ok m ∧ ∀ x ∈ m, x ∈ members := by
  obtain ⟨found, hfound, hmembers⟩ := bind_eq_ok.1 h
  obtain rfl := Except.ok.inj hmembers
  have hall := mapM_eq_ok_iff.1 hfound
  obtain ⟨i, hi, rfl⟩ := List.getElem_of_mem hs
  have hlt : i < found.length := hall.length_eq ▸ hi
  refine ⟨found[i], hall.get hi hlt, fun x hx => List.mem_filterMap.2 ⟨found[i], ?_, hx⟩⟩
  exact List.getElem_mem hlt

theorem exists_of_mem_members {m : Member} (hm : m ∈ members) :
    ∃ s ∈ body, memberOf (modifiersOf body) s = .ok (some m) := by
  obtain ⟨found, hfound, hmembers⟩ := bind_eq_ok.1 h
  obtain rfl := Except.ok.inj hmembers
  obtain ⟨x, hx, rfl⟩ := List.mem_filterMap.1 hm
  exact exists_of_mem_mapM hfound hx

theorem inferredFields_eq :
    (members.filterMap (·.outcome.field?)).filter (·.inferred) =
      body.filterMap (inferredFieldOf (modifiersOf body)) := by
  obtain ⟨found, hfound, hmembers⟩ := bind_eq_ok.1 h
  obtain rfl := Except.ok.inj hmembers
  rw [List.filterMap_filterMap, List.filter_filterMap]
  have hall := mapM_eq_ok_iff.1 hfound
  generalize modifiersOf body = modifiers at hall ⊢
  clear h hmembers hfound
  induction hall with
  | nil => rfl
  | cons hm _ ih =>
    rw [List.filterMap_cons, List.filterMap_cons, ih, inferredFieldOf_of_memberOf hm]
    rfl

end

/-! ## Members and their statements -/

theorem Member.name?_of_field {m : Member} {f : Field} (h : m.outcome.field? = some f) :
    m.name? = some f.name ∧ m.resolvedType? = some (f.type, f.inferred) ∧ m.line = f.line := by
  unfold outcome at h
  split at h
  · exact absurd h nofun
  split at h
  · exact absurd h nofun
  next hname =>
    split at h
    · exact absurd h nofun
    next hresolved =>
      obtain rfl := Option.some.inj h
      exact ⟨hname, hresolved, rfl⟩

theorem eq_name_of_bindingOf {x : Expr} {name : String} (h : bindingOf x = .ok ⟨name, true⟩) :
    ∃ target, x = .name target name := by
  unfold bindingOf at h
  split at h
  next target id =>
    obtain rfl : id = name := congrArg Binding.text (Except.ok.inj h)
    exact ⟨target, rfl⟩
  · obtain ⟨text, -, h⟩ := bind_eq_ok.1 h
    exact absurd (congrArg Binding.isIdentifier (Except.ok.inj h)) Bool.false_ne_true

/-- A member that binds one name has its type written, or an assignment to that name declares it. The
    name is not reserved. -/
theorem memberOf_of_name {modifiers : String → List String} {s : Stmt} {m : Member}
    (h : memberOf modifiers s = .ok (some m)) {name : String} (hname : m.name? = some name) :
    isReserved name = false ∧
      ((∃ text, m.writtenType = some text) ∨
        ∃ span target value, s = .assign span [.name target name] value) := by
  have hbinds := Member.name?_eq_some_iff.1 hname
  rcases memberOf_cases h with ⟨_, _, id, _, _, text, _, -, hreserved, -, -, rfl⟩ |
    ⟨span, targets, value, bindings, _, _, rfl, hbindings, hreserved, -, -, rfl⟩
  · obtain rfl : id = name := Option.some.inj hname
    exact ⟨hreserved, .inl ⟨text, rfl⟩⟩
  · obtain rfl : bindings = [⟨name, true⟩] := hbinds
    obtain ⟨x, rest, hx, hrest, rfl⟩ := List.forall₂_cons_right_iff.1 (mapM_eq_ok_iff.1 hbindings)
    obtain rfl := List.forall₂_nil_right_iff.1 hrest
    obtain ⟨target, rfl⟩ := eq_name_of_bindingOf hx
    exact ⟨hreserved _ List.mem_cons_self rfl, .inr ⟨span, target, value, rfl⟩⟩

section
variable {modifiers : String → List String} {s : Stmt}

theorem writtenType_ne_empty {m : Member} (htype : ThroughoutIn Stmt.TypeHasText s)
    (h : memberOf modifiers s = .ok (some m)) : m.writtenType ≠ some "" := by
  rcases memberOf_cases h with ⟨_, _, _, _, _, text, _, rfl, -, htext, -, rfl⟩ |
    ⟨_, _, _, _, _, _, -, -, -, -, -, rfl⟩
  · exact fun hempty => (htype _ List.mem_cons_self).mapError text htext (Option.some.inj hempty)
  · exact nofun

/-- A statement that declares an inferred field is changed by the type of that field. -/
theorem typedBy_of_inferredFieldOf {f : Field} (hf : inferredFieldOf modifiers s = some f)
    (htype : ThroughoutIn Stmt.TypeHasText s) : f.TypedBy s := by
  obtain ⟨m, hm, houtcome, hinferred⟩ := inferredFieldOf_eq_some hf
  obtain ⟨hname, hresolved, -⟩ := Member.name?_of_field (m := m) (f := f) (by rw [houtcome]; rfl)
  obtain ⟨-, ⟨text, htext⟩ | ⟨span, target, value, rfl⟩⟩ := memberOf_of_name hm hname
  · -- a written type is not inferred
    have hne : text.isEmpty = false := by
      rw [← Bool.not_eq_true, String.isEmpty_iff]
      rintro rfl
      exact writtenType_ne_empty htype hm htext
    rw [Member.resolvedType?, htext, hinferred] at hresolved
    simp only [hne, Bool.false_eq_true, if_false, Option.some.injEq, Prod.mk.injEq] at hresolved
    exact hresolved.2.elim
  · obtain ⟨hreserved, -, htype, heq⟩ := inferredFieldOf_assign hf
    refine ⟨span, target, value, rfl, by rw [heq], ?_⟩
    simp only [typedInsertions, hreserved, Bool.false_eq_true, if_false, htype]

/-- A statement that is changed declares an inferred field, if it is asked for its member. -/
theorem exists_inferredFieldOf {m : Option Member} (hm : memberOf modifiers s = .ok m)
    (hs : typedInsertions s ≠ []) : ∃ f, inferredFieldOf modifiers s = some f := by
  unfold typedInsertions at hs
  split at hs
  next span target id value =>
    split at hs
    · exact absurd rfl hs
    next hreserved =>
      split at hs
      next type htype =>
        have hassign := hm
        rw [memberOf_assign_name, if_neg hreserved] at hassign
        obtain ⟨v, hv, rfl⟩ := map_eq_ok.1 hassign
        obtain ⟨text, -, hv⟩ := bind_eq_ok.1 hv
        obtain rfl := Except.ok.inj hv
        rw [inferredFieldOf_of_memberOf hm, Option.bind_some, @Member.outcome_of_name _ id rfl rfl]
        simp only [Member.resolvedType?, Member.resolvedType?.fromValue, Option.bind_some, htype,
          Option.map_some, MemberOutcome.field?, Option.filter_some, if_true]
        exact ⟨_, rfl⟩
      · exact absurd rfl hs
  · exact absurd rfl hs

end

/-! ## Fields that are found again -/

theorem inferredField?_of_reserved {body : List Stmt} {members : List Member}
    (h : membersOf body = .ok members) {name : String} (hreserved : isReserved name = true) {line : Nat} :
    inferredField? (members.filterMap (·.outcome.field?)) line name = none := by
  rw [inferredField?, List.find?_eq_none]
  intro f hf
  obtain ⟨x, hx, hfield⟩ := List.mem_filterMap.1 (List.mem_reverse.1 hf)
  obtain ⟨t, -, ht⟩ := exists_of_mem_members h hx
  have hfree := (memberOf_of_name ht (Member.name?_of_field hfield).1).1
  rw [Bool.and_eq_true, decide_eq_true_iff]
  rintro ⟨-, rfl⟩
  rw [hreserved] at hfree
  exact Bool.noConfusion hfree

section
variable {members : List Member} (hnames : (members.filterMap Member.name?).Nodup)
include hnames

/-- Of members with different names, each is found again by its line and its name. -/
theorem inferredField?_eq {m : Member} (hm : m ∈ members) {name : String}
    (hname : m.name? = some name) :
    inferredField? (members.filterMap (·.outcome.field?)) m.line name =
      m.outcome.field?.filter (·.inferred) := by
  have hown {g : Field} (hg : g ∈ members.filterMap (·.outcome.field?)) (hgname : g.name = name) :
      m.outcome.field? = some g := by
    obtain ⟨x, hx, hfield⟩ := List.mem_filterMap.1 hg
    have hxname := (Member.name?_of_field hfield).1
    rw [hgname] at hxname
    rwa [eq_of_nodup_filterMap hnames hm hx hname hxname]
  rw [inferredField?]
  cases hfind : List.find? _ _ with
  | some g =>
    have hg := List.find?_some hfind
    simp only [Bool.and_eq_true, decide_eq_true_eq] at hg
    rw [hown (List.mem_reverse.1 (List.mem_of_find?_eq_some hfind)) hg.2, Option.filter_some,
      if_pos hg.1.1]
  | none =>
    rw [List.find?_eq_none] at hfind
    cases hfield : m.outcome.field? with
    | none => rfl
    | some f =>
      obtain ⟨hfname, -, hline⟩ := Member.name?_of_field hfield
      have hf := hfind f (List.mem_reverse.2 (List.mem_filterMap.2 ⟨m, hm, hfield⟩))
      have hfname' : f.name = name := Option.some.inj (hfname.symm.trans hname)
      simp only [hline, hfname', decide_true, Bool.and_true] at hf
      rw [Option.filter_some, if_neg hf]

/-- **A plan changes a statement of its class just as the statement asks for.** -/
theorem insertionsFor_eq_typed {body : List Stmt} (h : membersOf body = .ok members)
    {s : Stmt} (hs : s ∈ body) :
    insertionsFor (members.filterMap (·.outcome.field?)) s = typedInsertions s := by
  by_cases hassign : ∃ span target id value, s = .assign span [.name target id] value
  · obtain ⟨span, target, id, value, rfl⟩ := hassign
    obtain ⟨m, hm, hmem⟩ := exists_memberOf h hs
    have hmember := hm
    rw [memberOf_assign_name] at hmember
    cases hreserved : isReserved id with
    | true =>
      rw [insertionsFor, inferredField?_of_reserved h hreserved, typedInsertions, if_pos hreserved]
    | false =>
      rw [hreserved, if_neg Bool.false_ne_true] at hmember
      obtain ⟨v, -, rfl⟩ := map_eq_ok.1 hmember
      have hfound := inferredField?_eq hnames (hmem _ rfl) (show Member.name? _ = some id from rfl)
      have hinferred := inferredFieldOf_of_memberOf hm
      rw [Option.bind_some, ← hfound] at hinferred
      rw [insertionsFor]
      cases hfield : inferredField? (members.filterMap (·.outcome.field?)) span.line id with
      | some f =>
        obtain ⟨-, -, htype, -⟩ := inferredFieldOf_assign (hinferred.trans hfield)
        simp only [typedInsertions, hreserved, Bool.false_eq_true, if_false, htype, typingOf]
      | none =>
        -- a type that is to be written would be that of a field
        by_contra hchanged
        obtain ⟨f, hf⟩ := exists_inferredFieldOf hm (Ne.symm hchanged)
        cases hfield.symm.trans (hinferred.symm.trans hf)
  · have hother : ∀ span target id value, s = .assign span [.name target id] value → False :=
      fun span target id value h => hassign ⟨span, target, id, value, h⟩
    rw [insertionsFor.eq_2 _ _ hother, typedInsertions.eq_2 _ hother]

end

/-! ## Plans of classes -/

/-- What is taken from the members of a list that pass a test, each with the one it was taken from. -/
theorem forall₂_filterMap_filter {α β : Type} {f : α → Option β} {test : α → Bool}
    {R : β → α → Prop} {l : List α}
    (h : ∀ a ∈ l, f a = none ∧ test a = false ∨ ∃ b, f a = some b ∧ R b a ∧ test a = true) :
    List.Forall₂ R (l.filterMap f) (l.filter test) := by
  induction l with
  | nil => exact .nil
  | cons a l ih =>
    obtain ⟨ha, hl⟩ := List.forall_mem_cons.1 h
    rcases ha with ⟨hnone, htest⟩ | ⟨b, hsome, hR, htest⟩
    · rw [List.filterMap_cons_none hnone, List.filter_cons_of_neg (Bool.eq_false_iff.1 htest)]
      exact ih hl
    · rw [List.filterMap_cons_some hsome, List.filter_cons_of_pos htest]
      exact .cons hR (ih hl)

/-- A plan was derived from the declaration of a class of the tree that has this body. -/
def Plan.IsOf (tree : List Stmt) (p : Plan) (body : List Stmt) : Prop :=
  ∃ filename rule span name decorators bases path d, (span.line, body) ∈ classBodies tree ∧
    Declaration.ofDefinition filename rule (.classDef span name decorators bases body, path) =
      .ok (some d) ∧ (derive d).plan = some p

theorem Plan.IsOf.elim {tree body : List Stmt} {p : Plan} (h : p.IsOf tree body) :
    (p.declaration.location.line, body) ∈ classBodies tree ∧
      membersOf body = .ok p.declaration.members ∧
      p.fields = p.declaration.members.filterMap (·.outcome.field?) := by
  obtain ⟨filename, rule, span, name, decorators, bases, path, d, hclass, hof, hplan⟩ := h
  obtain rfl := plan?_eq_some ((derive_plan d).symm.trans hplan)
  rcases ofDefinition_cases hof with
    ⟨_, _, _, _, _, members, _, _, heq, -, hmembers, -, rfl⟩ | ⟨_, _, _, _, _, _, _, heq, -, -⟩
  · obtain ⟨rfl, -, -, -, rfl⟩ := Stmt.classDef.inj heq
    exact ⟨hclass, hmembers, rfl⟩
  · exact Stmt.noConfusion heq

theorem lookup_classBodies {tree body : List Stmt} {line : Nat}
    (hlines : ((classBodies tree).map (·.1)).Nodup) (h : (line, body) ∈ classBodies tree) :
    (classBodies tree).lookup line = some body := by
  obtain ⟨front, back, heq⟩ := List.append_of_mem h
  rw [heq, List.map_append, List.map_cons, List.nodup_middle, List.nodup_cons,
    List.mem_append] at hlines
  rw [List.lookup_eq_some_iff]
  refine ⟨front, back, heq, fun x hx => ?_⟩
  rw [bne_iff_ne]
  rintro rfl
  have hfront : x.1 ∈ front.map (·.1) := List.mem_map_of_mem hx
  exact hlines.1 (.inl hfront)

section
variable {tree : List Stmt} {p : Plan} {body : List Stmt} (h : p.IsOf tree body)
include h

/-- A plan changes its own class, one statement after the other. -/
theorem Plan.IsOf.insertions_eq (hlines : ((classBodies tree).map (·.1)).Nodup)
    (hnames : (p.declaration.members.filterMap Member.name?).Nodup) :
    p.insertions tree = body.flatMap typedInsertions := by
  obtain ⟨hclass, hmembers, hfields⟩ := h.elim
  rw [Plan.insertions, lookup_classBodies hlines hclass, hfields]
  exact List.flatMap_congr fun s hs => insertionsFor_eq_typed hnames hmembers hs

theorem Plan.IsOf.typedBy (htypes : TypesHaveText tree) :
    List.Forall₂ Field.TypedBy (p.fields.filter (·.inferred))
      (body.filter fun s => typedInsertions s ≠ []) := by
  obtain ⟨hclass, hmembers, hfields⟩ := h.elim
  have hstatements := throughout_iff.1 (htypes.of_classBodies hclass)
  rw [hfields, inferredFields_eq hmembers]
  refine forall₂_filterMap_filter fun s hs => ?_
  obtain ⟨m, hm, hmem⟩ := exists_memberOf hmembers hs
  cases hf : inferredFieldOf (modifiersOf body) s with
  | some f =>
    have htyped : f.TypedBy s := typedBy_of_inferredFieldOf hf (hstatements s hs)
    refine .inr ⟨f, rfl, htyped, ?_⟩
    obtain ⟨span, target, value, -, -, htyping⟩ := htyped
    rw [htyping]
    rfl
  | none =>
    refine .inl ⟨rfl, decide_eq_false fun hchanged => ?_⟩
    obtain ⟨f, hsome⟩ := exists_inferredFieldOf hm hchanged
    exact absurd (hf.symm.trans hsome) nofun

end

/-- The plans of an expansion were derived from classes of the text, and the types that are written in a
    text have a text themselves. -/
theorem exists_isOf_of_expand {filename text : String} {e : Expansion}
    (hexpand : expand filename text = .ok e) : ∃ tree, Module.parse text = .ok tree ∧
      TypesHaveText tree ∧ ∀ p ∈ e.plans, ∃ body, p.IsOf tree body := by
  obtain ⟨declarations, hparse⟩ := parseAll_of_expand hexpand
  obtain ⟨tree, hsource, hmodule⟩ := bind_eq_ok.1 hparse
  have htree := parseSource_eq_ok_iff.1 hsource
  refine ⟨tree, htree, typesHaveText_of_parse htree, fun p hp => ?_⟩
  obtain ⟨ds, hds, hdeclared, hplan⟩ := plan?_of_expand hexpand hp
  obtain rfl := Except.ok.inj (hparse.symm.trans hds)
  obtain ⟨⟨definition, path⟩, hmarked, hof⟩ := Declaration.exists_ofDefinition hmodule hdeclared
  obtain ⟨span, name, decorators, bases, body, rfl, -⟩ := class_of_record hof (Declaration.record_of_plan? hplan)
  exact ⟨body, filename, _, span, name, decorators, bases, path, p.declaration, class_of_marked "" hmarked,
    hof, (derive_plan _).trans hplan⟩

/-- **Every type that an expansion writes is that of an inferred field**, one field after the other. -/
theorem typedBy_of_expand {filename text : String} {e : Expansion}
    (hexpand : expand filename text = .ok e) : ∃ tree, Module.parse text = .ok tree ∧
      ∀ p ∈ e.plans, ∃ body, p.IsOf tree body ∧
        List.Forall₂ Field.TypedBy (p.fields.filter (·.inferred))
          (body.filter fun s => typedInsertions s ≠ []) := by
  obtain ⟨tree, htree, htypes, hplans⟩ := exists_isOf_of_expand hexpand
  refine ⟨tree, htree, fun p hp => ?_⟩
  obtain ⟨body, h⟩ := hplans p hp
  exact ⟨body, h, h.typedBy htypes⟩

/-- **Exactly the inferred fields are written out, each with its own type.** Where the heads of all classes
    stand on different lines, and plans were derived from classes whose members have different names, the
    plans change just those statements of their own classes that assign a literal to one name that is
    not reserved. In each class these are, in the order of its fields, the statements of the inferred
    ones. The types that are written have a text, as in every tree that is read from a text
    (`typesHaveText_of_parse`). -/
theorem insertions_eq_typed {tree : List Stmt} (hlines : ((classBodies tree).map (·.1)).Nodup)
    {plans : List Plan} {bodies : List (List Stmt)}
    (hplans : List.Forall₂ (Plan.IsOf tree) plans bodies)
    (hnames : ∀ p ∈ plans, (p.declaration.members.filterMap Member.name?).Nodup)
    (htypes : TypesHaveText tree) :
    plans.flatMap (·.insertions tree) = bodies.flatMap (·.flatMap typedInsertions) ∧
      List.Forall₂ (fun (p : Plan) body => List.Forall₂ Field.TypedBy (p.fields.filter (·.inferred))
        (body.filter fun s => typedInsertions s ≠ [])) plans bodies := by
  induction hplans with
  | nil => exact ⟨rfl, .nil⟩
  | cons h _ ih =>
    obtain ⟨hname, hnames⟩ := List.forall_mem_cons.1 hnames
    obtain ⟨hinsertions, htyped⟩ := ih hnames
    refine ⟨?_, .cons (h.typedBy htypes) htyped⟩
    rw [List.flatMap_cons, List.flatMap_cons, h.insertions_eq hlines hname, hinsertions]

/-- A decorator that makes a record. -/
def frozenDecorator : Expr :=
  .call default (.name default "dataclass") [] [.mk (some "frozen") (.literal default (.bool true))]

/-- A class with one field of each sort, and a class in it that has a field of the same name. -/
def shelfBody : List Stmt :=
  [.assign (lineSpan 4 8) [.name (lineSpan 4 4) "size"] (.literal (lineSpan 4 8) (.int 1)),
   .classDef (lineSpan 5 20) "Board" [frozenDecorator] []
     [.assign (lineSpan 6 8) [.name (lineSpan 6 4) "size"] (.literal (lineSpan 6 8) (.bool true))],
   .annotate (lineSpan 7 8) (.name (lineSpan 7 4) "kept") (.name default "int") none]

def shelfTree : List Stmt := [.classDef (lineSpan 3 20) "Shelf" [frozenDecorator] [] shelfBody]

def shelf : Declaration where
  kind := .record
  name := "Shelf"
  members :=
    [⟨[⟨"size", true⟩], none, some ⟨.integer, "1"⟩, [], false, 4⟩,
     ⟨[⟨"kept", true⟩], some "int", none, [], false, 7⟩]
  signatures := []
  qualifiedName := "Shelf"
  location := ⟨sourceName, 3, 3, 4, String.ofList (List.replicate 8 ' ')⟩

/-- The plan of the shelf. -/
def shelfPlan : Plan := ⟨shelf, shelf.fields, none⟩

/-- The class in the shelf is not planned and stays as it is, and so does the field whose type is
    written. -/
theorem insertions_eq_typed_shelf :
    ((classBodies shelfTree).map (·.1)).Nodup ∧
    List.Forall₂ (Plan.IsOf shelfTree) [shelfPlan] [shelfBody] ∧
    (∀ p ∈ [shelfPlan], (p.declaration.members.filterMap Member.name?).Nodup) ∧
    TypesHaveText shelfTree ∧
    [shelfPlan].flatMap (·.insertions shelfTree) =
      typingOf (lineSpan 4 4) (.literal (lineSpan 4 8) (.int 1)) "int" ∧
    List.Forall₂ Field.TypedBy (shelfPlan.fields.filter (·.inferred))
      (shelfBody.filter fun s => typedInsertions s ≠ []) := by
  have hlines : ((classBodies shelfTree).map (·.1)).Nodup := by decide
  have hplans : List.Forall₂ (Plan.IsOf shelfTree) [shelfPlan] [shelfBody] := by
    refine .cons ⟨sourceName, .assumed, lineSpan 3 20, "Shelf", [frozenDecorator], [], "Shelf", shelf,
      List.mem_cons_self, ?_, ?_⟩ .nil
    · decide +kernel
    · decide +kernel
  have hnames : ∀ p ∈ [shelfPlan], (p.declaration.members.filterMap Member.name?).Nodup :=
    List.forall_mem_singleton.2 (by decide)
  have htypes : TypesHaveText shelfTree := by
    refine List.forall_mem_cons.2 ⟨trivial, List.forall_mem_cons.2 ⟨trivial, ?_⟩⟩
    refine List.forall_mem_singleton.2 (?_ : Yields (Expr.text _) _)
    rw [Expr.text, Expr.write]
    exact .ok (by decide)
  obtain ⟨hinsertions, htyped⟩ := insertions_eq_typed hlines hplans hnames htypes
  refine ⟨hlines, hplans, hnames, htypes, hinsertions.trans rfl, ?_⟩
  exact (List.forall₂_cons.1 htyped).1

end RecordLens
