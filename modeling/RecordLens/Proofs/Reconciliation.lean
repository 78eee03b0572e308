import RecordLens.Proofs.GeneratedLens
/-!
Which constructor the generated code of a record calls. The first written constructor that takes the
fields is called; where there is none, one is generated, and the setters call that one. What is
generated depends on the written constructors by nothing else.

* `Signature.servesAs_iff`: which written constructors serve.
* `Plan.exists_head_iff`: when the generated members define a constructor.
* `Plan.setterCall_infix_memberLines`: the calls of the setters in the text.
* `Plan.memberText_congr`: on what the text depends.
* `derive_reconciled`: the decision, the text and the calls, for all written constructors.
-/
namespace RecordLens

/-- A written constructor takes the fields of a record: its parameters have their names and types, in
    their order, and each of them can be passed by keyword. -/
structure Signature.TakesFields (s : Signature) (fields : List Field) : Prop where
  parameters : s.parameters.map (fun x => (x.name, x.type)) = fields.map fun f => (f.name, f.type)
  byKeyword : ∀ x ∈ s.parameters, x.kind = .positionalOrKeyword ∨ x.kind = .keywordOnly

theorem ParameterKind.byKeyword_iff (k : ParameterKind) :
    k.byKeyword = true ↔ k = .positionalOrKeyword ∨ k = .keywordOnly := by
  cases k <;> decide

/-- **A written constructor serves if and only if it takes the fields.** -/
theorem Signature.servesAs_iff {s : Signature} {fields : List Field} :
    s.servesAs (canonicalSignature fields) = true ↔ s.TakesFields fields := by
  have hpairs : (canonicalSignature fields).pairs = fields.map fun f => (f.name, f.type) := by
    rw [pairs, canonicalSignature, List.map_map]
    rfl
  rw [servesAs, Bool.and_eq_true, sameAs, decide_eq_true_iff, hpairs, acceptsKeywords,
    List.all_eq_true]
  simp only [ParameterKind.byKeyword_iff]
  exact ⟨fun h => ⟨h.1, h.2⟩, fun h => ⟨h.1, h.2⟩⟩

theorem Declaration.reusable?_eq_some_iff {d : Declaration} {s : Signature} :
    d.reusable? (canonicalSignature d.fields) = some s ↔ ∃ front back,
      d.signatures = front ++ s :: back ∧ s.TakesFields d.fields ∧
      ∀ t ∈ front, ¬ t.TakesFields d.fields := by
  simp only [reusable?, List.find?_eq_some_iff_append, Signature.servesAs_iff, Bool.not_eq_true',
    ← Bool.not_eq_true]
  constructor
  · rintro ⟨hs, front, back, hsplit, hfront⟩
    exact ⟨front, back, hsplit, hs, hfront⟩
  · rintro ⟨front, back, hsplit, hs, hfront⟩
    exact ⟨hs, front, back, hsplit, hfront⟩

theorem Declaration.reusable?_eq_none_iff {d : Declaration} :
    d.reusable? (canonicalSignature d.fields) = none ↔
      ∀ s ∈ d.signatures, ¬ s.TakesFields d.fields := by
  simp only [reusable?, List.find?_eq_none, Signature.servesAs_iff]

namespace Plan

/-! ## The definition of a constructor in the text -/

/-- How the definition of a generated constructor begins. -/
def constructorHead : String := "def " ++ constructorName ++ "("

/-- A line begins the definition of a generated constructor in a class body. -/
def IsHead (indent line : String) : Prop := (indent ++ constructorHead).toList <+: line.toList

theorem isHead_indented {indent line : String} :
    IsHead indent (indented indent line) ↔ IsHead "" line := by
  rw [IsHead, IsHead, indented, String.empty_append, String.toList_append]
  split
  next hempty =>
    have hhead : constructorHead.toList ≠ [] := by decide
    rw [String.isEmpty_iff.1 hempty]
    simp [hhead]
  · rw [String.toList_append, List.prefix_append_right_inj]

theorem not_isHead_step (line : String) : ¬ IsHead "" (step ++ line) := by
  have hstep : (step ++ line).toList = ' ' :: ' ' :: ' ' :: ' ' :: line.toList := by
    rw [String.toList_append]
    rfl
  have hhead : ("" ++ constructorHead).toList = 'd' :: "ef _autolens_init(".toList := by decide
  rw [IsHead, hstep, hhead, List.cons_prefix_cons]
  exact fun h => absurd h.1 (by decide)

theorem not_isHead_indented_step (line : String) : ¬ IsHead "" (indented step line) := by
  rw [indented]
  split
  · exact (by decide : ¬ ("" ++ constructorHead).toList <+: "".toList)
  · exact not_isHead_step line

variable (p : Plan)

theorem exists_head_constructorLines : ∃ line ∈ p.constructorLines, IsHead "" line := by
  refine ⟨_, List.mem_append_left _ (List.mem_cons_of_mem _ List.mem_cons_self), ?_⟩
  rw [IsHead, String.empty_append, constructorHead]
  simp only [String.append_assoc, String.toList_append]
  simp [List.prefix_append_right_inj]

theorem not_isHead_accessorLines : ∀ line ∈ p.accessorLines, ¬ IsHead "" line := by
  have htokens : ∀ line ∈ (if p.exposedFields.isEmpty then [step ++ "pass"]
      else p.exposedFields.map p.tokenLine), ¬ IsHead "" line := by
    split
    · exact List.forall_mem_singleton.2 (not_isHead_step "pass")
    · refine List.forall_mem_map.2 fun f _ => ?_
      simp only [tokenLine, String.append_assoc]
      exact not_isHead_step _
  have haccessor (rest : String) : ¬ IsHead "" ("def lens(cls, path: FieldRef[" ++ rest) := by
    rw [IsHead, String.toList_append]
    simp [constructorHead, constructorName]
  intro line hline
  rw [accessorLines, List.mem_append, List.mem_append] at hline
  rcases hline with (hline | hline) | hline
  · rw [List.mem_singleton] at hline
    subst hline
    exact (by decide : ¬ ("" ++ constructorHead).toList <+: "class Fields:".toList)
  · exact htokens line hline
  · simp only [List.mem_cons, List.not_mem_nil, or_false] at hline
    rcases hline with rfl | rfl | rfl | rfl
    · exact (by decide : ¬ ("" ++ constructorHead).toList <+: "".toList)
    · exact (by decide : ¬ ("" ++ constructorHead).toList <+: "@classmethod".toList)
    · simp only [String.append_assoc]
      exact haccessor _
    · exact not_isHead_step _

theorem not_isHead_lensesLines : ∀ line ∈ p.lensesLines, ¬ IsHead "" line := by
  rw [lensesLines, List.forall_mem_cons]
  exact ⟨(by decide : ¬ ("" ++ constructorHead).toList <+: "class AllLenses:".toList),
    List.forall_mem_map.2 fun line _ => not_isHead_indented_step line⟩

/-! ## The parts of the members -/

theorem memberLines_of_generated (h : p.reused = none) (indent : String) :
    p.memberLines indent =
      (["", marker] ++ (p.accessorLines ++ "" :: (p.constructorLines ++ "" :: p.lensesLines))).map
        (indented indent) := by
  rw [memberLines, emitsConstructor, h]
  rfl

theorem memberLines_of_reused {s : Signature} (h : p.reused = some s) (indent : String) :
    p.memberLines indent =
      (["", marker] ++ (p.accessorLines ++ "" :: p.lensesLines)).map (indented indent) := by
  rw [memberLines, emitsConstructor, h]
  rfl

/-- **The generated members define a constructor if and only if no written one is called.** -/
theorem exists_head_iff (indent : String) :
    (∃ line ∈ p.memberLines indent, IsHead indent line) ↔ p.reused = none := by
  cases hreused : p.reused with
  | none =>
    obtain ⟨line, hline, hhead⟩ := p.exists_head_constructorLines
    refine iff_of_true ⟨indented indent line, ?_, isHead_indented.2 hhead⟩ rfl
    rw [p.memberLines_of_generated hreused]
    refine List.mem_map_of_mem (List.mem_append_right _ (List.mem_append_right _ ?_))
    exact List.mem_cons_of_mem _ (List.mem_append_left _ hline)
  | some s =>
    refine iff_of_false ?_ nofun
    rintro ⟨_, hmember, hhead⟩
    rw [p.memberLines_of_reused hreused] at hmember
    obtain ⟨line, hline, rfl⟩ := List.mem_map.1 hmember
    rw [isHead_indented] at hhead
    simp only [List.mem_append, List.mem_cons, List.not_mem_nil, or_false] at hline
    rcases hline with (rfl | rfl) | haccessor | rfl | hlenses
    · exact absurd hhead (by decide : ¬ ("" ++ constructorHead).toList <+: "".toList)
    · exact absurd hhead (by decide : ¬ ("" ++ constructorHead).toList <+: marker.toList)
    · exact p.not_isHead_accessorLines line haccessor hhead
    · exact absurd hhead (by decide : ¬ ("" ++ constructorHead).toList <+: "".toList)
    · exact p.not_isHead_lensesLines line hlenses hhead

/-- The block of the constructor stands in the generated members if and only if no written
    constructor is called. -/
theorem constructorLines_infix_iff (indent : String) :
    p.constructorLines.map (indented indent) <:+: p.memberLines indent ↔ p.reused = none := by
  constructor
  · intro hblock
    obtain ⟨line, hline, hhead⟩ := p.exists_head_constructorLines
    exact (p.exists_head_iff indent).1
      ⟨_, hblock.subset (List.mem_map_of_mem hline), isHead_indented.2 hhead⟩
  · intro hreused
    rw [p.memberLines_of_generated hreused]
    refine List.IsInfix.map _ ⟨["", marker] ++ (p.accessorLines ++ [""]), "" :: p.lensesLines, ?_⟩
    simp only [List.append_assoc, List.cons_append, List.nil_append]

/-! ## The calls of the setters -/

/-- The call of a setter as text: the constructor, and each argument by keyword. -/
def setterCallLines (constructor : String) (arguments : List (String × Argument)) : List String :=
  ("setter=lambda whole, target: " ++ constructor ++ "(") ::
    arguments.map (fun (parameter, argument) => step ++ parameter ++ "=" ++ argument.text ++ ",") ++
    ["),"]

theorem lensesLines_infix (indent : String) :
    p.lensesLines.map (indented indent) <:+: p.memberLines indent := by
  cases hreused : p.reused with
  | none =>
    rw [p.memberLines_of_generated hreused]
    refine List.IsInfix.map _
      ⟨["", marker] ++ (p.accessorLines ++ "" :: (p.constructorLines ++ [""])), [], ?_⟩
    simp only [List.append_assoc, List.cons_append, List.nil_append, List.append_nil]
  | some s =>
    rw [p.memberLines_of_reused hreused]
    refine List.IsInfix.map _ ⟨["", marker] ++ (p.accessorLines ++ [""]), [], ?_⟩
    simp only [List.append_assoc, List.cons_append, List.nil_append, List.append_nil]

theorem indented_step (indent line : String) : indented indent (step ++ line) =
    indent ++ (step ++ line) := by
  have hstep : (step ++ line).isEmpty = false := by
    rw [← Bool.not_eq_true, String.isEmpty_iff, String.append_eq_empty_iff]
    exact fun h => absurd h.1 (by decide)
  rw [indented, hstep]
  rfl

/-- **Every setter calls the constructor of its plan**, in the text as in the plan. -/
theorem setterCall_infix_memberLines {l : LensPlan} (hl : l ∈ p.lenses) (indent : String) :
    (setterCallLines p.constructor l.arguments).map (fun line => indent ++ (step ++ (step ++ line)))
      <:+: p.memberLines indent := by
  have hlens : (setterCallLines p.constructor l.arguments).map (step ++ ·) <:+: p.lensLines l := by
    refine ⟨[l.field.name ++ ": Lens[" ++ p.path ++ ", " ++ l.field.type ++ "] = Lens(",
      step ++ "getter=lambda whole: whole." ++ l.field.name ++ ","], [")"], ?_⟩
    simp [setterCallLines, lensLines, String.append_assoc]
  have hbody : (p.lensLines l).map (indented step) <:+: p.lensesLines := by
    obtain ⟨front, back, hsplit⟩ := List.append_of_mem hl
    refine ⟨"class AllLenses:" ::
        (front.flatMap fun l => p.lensLines l ++ [""]).map (indented step),
      ([""] ++ (back.flatMap fun l => p.lensLines l ++ [""]) ++ p.registryLines).map
        (indented step), ?_⟩
    rw [lensesLines, hsplit, List.flatMap_append, List.flatMap_cons]
    simp only [List.map_append, List.append_assoc, List.cons_append]
  have hcall := ((hlens.map (indented step)).trans hbody).map (indented indent)
  have htext : (((setterCallLines p.constructor l.arguments).map (step ++ ·)).map
      (indented step)).map (indented indent) =
      (setterCallLines p.constructor l.arguments).map
        fun line => indent ++ (step ++ (step ++ line)) := by
    rw [List.map_map, List.map_map]
    refine List.map_congr_left fun line _ => ?_
    simp only [Function.comp_apply, indented_step]
  exact htext ▸ hcall.trans (p.lensesLines_infix indent)

/-! ## On what the text depends -/

section
variable {p} {q : Plan}

theorem exposedFields_congr (hfields : p.fields = q.fields) :
    p.exposedFields = q.exposedFields := by
  rw [exposedFields, hfields, exposedFields]

theorem lenses_congr (hp : p.Consistent) (hq : q.Consistent) (hfields : p.fields = q.fields) :
    p.lenses = q.lenses := by
  have harguments (f : Field) :
      setterArguments f p.usableSignature = setterArguments f q.usableSignature := by
    rw [setterArguments, setterArguments, usableSignature_names hp, usableSignature_names hq,
      hfields]
  rw [lenses, lenses, exposedFields_congr hfields]
  exact List.map_congr_left fun f _ => congrArg (LensPlan.mk f) (harguments f)

/-- Plans for one path with the same fields have the same text if both of them call a written
    constructor or none of them does. -/
theorem memberText_congr (hp : p.Consistent) (hq : q.Consistent) (hpath : p.path = q.path)
    (hfields : p.fields = q.fields) (hreused : p.reused = none ↔ q.reused = none)
    (indent : String) : p.memberText indent = q.memberText indent := by
  have hemits : p.emitsConstructor = q.emitsConstructor := by
    rw [Bool.eq_iff_iff, emitsConstructor, emitsConstructor, Option.isNone_iff_eq_none,
      Option.isNone_iff_eq_none, hreused]
  have hconstructor : p.constructor = q.constructor := by
    rw [constructor, constructor, hemits, hpath]
  have hlenses : p.lensesLines = q.lensesLines := by
    have hlens : p.lensLines = q.lensLines := by
      funext l
      simp only [lensLines, hpath, hconstructor]
    have hentry : p.entryLine = q.entryLine := by
      funext l
      simp only [entryLine, token, hpath]
    simp only [lensesLines, registryLines, lenses_congr hp hq hfields, hlens, hentry, hpath]
  have haccessor : p.accessorLines = q.accessorLines := by
    have htoken : p.tokenLine = q.tokenLine := by
      funext f
      simp only [tokenLine, token, hpath]
    rw [accessorLines, accessorLines, exposedFields_congr hfields, htoken, hpath]
  have hblock : p.constructorLines = q.constructorLines := by
    simp only [constructorLines, constructorBody, signature, hfields, hpath]
  rw [memberText, memberText, memberLines, memberLines, haccessor, hblock, hlenses, hemits]

end

/-! ## The decision for a declaration -/

/-- What the plan of a declaration makes of its written constructors. -/
structure Reconciled (p : Plan) (d : Declaration) : Prop where
  /-- The constructor that is called is the first one that takes the fields. -/
  reuses : ∀ s, p.reused = some s ↔ ∃ front back, d.signatures = front ++ s :: back ∧
    s.TakesFields p.fields ∧ ∀ t ∈ front, ¬ t.TakesFields p.fields
  generates : p.reused = none ↔ ∀ s ∈ d.signatures, ¬ s.TakesFields p.fields
  /-- Exactly when there is none, the members have the block of a generated constructor. -/
  block : ∀ indent,
    p.constructorLines.map (indented indent) <:+: p.memberLines indent ↔ p.reused = none
  /-- Only then a line begins the definition of one. -/
  head : ∀ indent, (∃ line ∈ p.memberLines indent, IsHead indent line) ↔ p.reused = none
  /-- The setters call what was decided for. -/
  calls : ∀ l ∈ p.lenses, ∀ indent,
    (setterCallLines (if p.reused = none then d.path ++ "." ++ "_autolens_init" else d.path)
      l.arguments).map (fun line => indent ++ (step ++ (step ++ line))) <:+: p.memberLines indent
  /-- There is one argument for each parameter of the constructor that is called, by keyword and in
      order: the new value for the own field, and the old one for every other field. -/
  arguments : ∀ l ∈ p.lenses, l.arguments.map (·.1) = p.usableSignature.names ∧
    (∀ x ∈ p.usableSignature.parameters, x.kind = .positionalOrKeyword ∨ x.kind = .keywordOnly) ∧
    (∀ e ∈ l.arguments, e.2 = if e.1 = l.field.name then .target else .kept e.1) ∧
    ((p.fields.map (·.name)).Nodup → (l.arguments.map (·.1)).Nodup)

variable {p} {d : Declaration}

theorem path_of_plan? (h : d.plan? = some p) : p.path = d.path := by
  obtain rfl := plan?_eq_some h
  rfl

theorem arguments_of_mem_lenses (h : p.Consistent) {l : LensPlan} (hl : l ∈ p.lenses) :
    l.arguments.map (·.1) = p.usableSignature.names ∧
    (∀ e ∈ l.arguments, e.2 = if e.1 = l.field.name then .target else .kept e.1) ∧
    ((p.fields.map (·.name)).Nodup → (l.arguments.map (·.1)).Nodup) := by
  have hnames : l.arguments.map (·.1) = p.usableSignature.names := by
    rw [(mem_lenses hl).2, setterArguments, List.map_map]
    exact List.map_id _
  refine ⟨hnames, ?_, ?_⟩
  · rw [(mem_lenses hl).2]
    exact List.forall_mem_map.2 fun name _ => rfl
  · rw [hnames, usableSignature_names h]
    exact id

theorem reconciled_of_plan? (h : d.plan? = some p) : p.Reconciled d where
  reuses s := by
    obtain rfl := plan?_eq_some h
    exact Declaration.reusable?_eq_some_iff
  generates := by
    obtain rfl := plan?_eq_some h
    exact Declaration.reusable?_eq_none_iff
  block := p.constructorLines_infix_iff
  head := p.exists_head_iff
  calls l hl indent := by
    have hconstructor : p.constructor =
        if p.reused = none then d.path ++ "." ++ "_autolens_init" else d.path := by
      rw [constructor, emitsConstructor, path_of_plan? h, constructorName]
      simp only [Option.isNone_iff_eq_none]
    rw [← hconstructor]
    exact p.setterCall_infix_memberLines hl indent
  arguments l hl := by
    have hconsistent := consistent_of_plan? h
    obtain ⟨hnames, hvalues, hdistinct⟩ := arguments_of_mem_lenses hconsistent hl
    refine ⟨hnames, fun x hx => ?_, hvalues, hdistinct⟩
    exact x.kind.byKeyword_iff.1 (List.all_eq_true.1 (usableSignature_byKeyword hconsistent) x hx)

end Plan

/-- Whether a constructor is generated depends on those written ones only that take the fields. -/
theorem Declaration.reusable?_eq_none_congr {d : Declaration} {signatures : List Signature}
    (h : ∀ s : Signature, s.TakesFields d.fields → (s ∈ signatures ↔ s ∈ d.signatures)) :
    d.reusable? (canonicalSignature d.fields) = none ↔
      { d with signatures := signatures }.reusable? (canonicalSignature d.fields) = none := by
  have hother : { d with signatures := signatures }.reusable? (canonicalSignature d.fields) = none ↔
      ∀ s ∈ signatures, ¬ s.TakesFields d.fields := Declaration.reusable?_eq_none_iff
  rw [hother, Declaration.reusable?_eq_none_iff]
  exact ⟨fun hnone s hs hfields => hnone s ((h s hfields).1 hs) hfields,
    fun hnone s hs hfields => hnone s ((h s hfields).2 hs) hfields⟩

/-- **Written constructors are reconciled exactly.** For every record and all of its written constructors,
    the plan calls the first one that takes the fields. Where there is none it has a constructor generated,
    and the setters call that one. The text depends on those constructors only that take the fields:
    others may be written, left out or moved. -/
theorem derive_reconciled (d : Declaration) (hrecord : d.kind = .record) :
    ∃ p, (derive d).plan = some p ∧ p.fields = d.fields ∧ p.Reconciled d ∧
      ∀ signatures : List Signature,
        (∀ s : Signature, s.TakesFields d.fields → (s ∈ signatures ↔ s ∈ d.signatures)) →
        ∃ q, (derive { d with signatures := signatures }).plan = some q ∧
          ∀ indent, q.memberText indent = p.memberText indent := by
  have hplan := Declaration.plan?_record hrecord
  refine ⟨_, (derive_plan d).trans hplan, rfl, Plan.reconciled_of_plan? hplan,
    fun signatures hsame => ?_⟩
  have hother := Declaration.plan?_record (d := { d with signatures := signatures }) hrecord
  refine ⟨_, (derive_plan _).trans hother, fun indent => ?_⟩
  exact Plan.memberText_congr (Plan.consistent_of_plan? hother) (Plan.consistent_of_plan? hplan)
    rfl rfl (Declaration.reusable?_eq_none_congr hsame).symm indent

/-- A record with two written constructors, of which the second one takes the fields, also when the two
    of them change places. -/
theorem derive_reconciled_savings :
    savings.kind = .record ∧
    (∀ s : Signature, s.TakesFields savings.fields →
      (s ∈ savings.signatures.reverse ↔ s ∈ savings.signatures)) ∧
    ∃ p q, (derive savings).plan = some p ∧ p.fields = savings.fields ∧ p.Reconciled savings ∧
      (derive { savings with signatures := savings.signatures.reverse }).plan = some q ∧
      ∀ indent, q.memberText indent = p.memberText indent := by
  have hsame : ∀ s : Signature, s.TakesFields savings.fields →
      (s ∈ savings.signatures.reverse ↔ s ∈ savings.signatures) := fun s _ => List.mem_reverse
  obtain ⟨p, hplan, hfields, hreconciled, htext⟩ := derive_reconciled savings rfl
  obtain ⟨q, hother, heq⟩ := htext _ hsame
  exact ⟨rfl, hsame, p, q, hplan, hfields, hreconciled, hother, heq⟩

end RecordLens
