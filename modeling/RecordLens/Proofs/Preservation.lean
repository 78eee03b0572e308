import RecordLens.Expansion.Imports
import RecordLens.Proofs.Derivation
import RecordLens.Proofs.Places
/-!
A record read again after its class body was expanded. Members with an inferred type have become
typed fields, and the generated members stand behind the others; what is derived from the new body is
what was derived from the old one, up to lines and the note that a type was inferred.

* `Stmt.typed`, `Plan.Expanded`: the statements of the new body.
* `memberOf_typed`, `memberOf_kept`: a statement of the new body declares the member of the old one.
* `Plan.Agrees`: two plans that differ in lines and in the note of inferred types only.
* `expanded_agrees`: the plan derived from the new body.
-/
namespace RecordLens

open Code

/-! ## The new statements -/

/-- The field that an unannotated statement declares with the type of its value. -/
def inferredFieldOf (modifiers : String → List String) (s : Stmt) : Option Field :=
  match memberOf modifiers s with
  | .ok (some m) => m.outcome.field?.filter (·.inferred)
  | _ => none

/-- The call that makes a value the default of a field, which is then passed by keyword. -/
def fieldCall (value : Expr) : Expr :=
  .call default (.attribute default (.name default fieldsModule) "field") []
    [.mk (some "default") value, .mk (some "kw_only") (.literal default (.bool true))]

/-- An assignment that declares an inferred field, with its type written out. -/
def Code.Stmt.typed (modifiers : String → List String) : Stmt → Stmt
  | .assign span [.name target id] value =>
    match inferredFieldOf modifiers (.assign span [.name target id] value) with
    | some f =>
      .annotate span (.name target id) (.name default f.type) (some (fieldCall value))
    | none => .assign span [.name target id] value
  | s => s

/-- A statement that stays: it is the same in another place, or it is a class, whose own body may have
    been expanded. -/
inductive Kept : Stmt → Stmt → Prop
  | moved {s t : Stmt} (h : t.unplaced = s.unplaced) : Kept s t
  | nested {name : String} (span span' : Span) (decorators decorators' bases bases' : List Expr)
      (body body' : List Stmt) :
      Kept (.classDef span name decorators bases body) (.classDef span' name decorators' bases' body')

/-- A statement that is a class of the name. -/
def IsClass (name : String) (s : Stmt) : Prop :=
  ∃ span decorators bases body, s = .classDef span name decorators bases body

/-- A statement that is a function of the name. -/
def IsFunction (name : String) (s : Stmt) : Prop :=
  ∃ span decorators params body, s = .functionDef span false name decorators params body

/-- The statements of a class body after its expansion: the old ones with inferred types written out,
    the tokens, the accessor, the constructor unless a written one serves, and the lenses. What stands
    inside the generated members is left open. -/
structure Plan.Expanded (p : Plan) (body : List Stmt) where
  kept : List Stmt
  tokens : Stmt
  accessor : Stmt
  constructor : Option Stmt
  lenses : Stmt
  keeps : List.Forall₂ (fun s t => Kept (s.typed (modifiersOf body)) t) body kept
  isTokens : IsClass "Fields" tokens
  isAccessor : IsFunction "lens" accessor
  isConstructor : ∀ s ∈ constructor, IsFunction constructorName s
  constructs : constructor.isSome = p.emitsConstructor
  isLenses : IsClass "AllLenses" lenses

namespace Plan.Expanded

variable {p : Plan} {body : List Stmt}

/-- The statements that are added to the body. -/
def generated (e : p.Expanded body) : List Stmt :=
  [e.tokens, e.accessor] ++ e.constructor.toList ++ [e.lenses]

/-- The statements of the new body. -/
def statements (e : p.Expanded body) : List Stmt := e.kept ++ e.generated

end Plan.Expanded

/-! ## Up to lines and the note of inferred types -/

/-- A field without its line, and without whether its type was inferred. -/
def Field.settled (f : Field) : Field := { f with inferred := false, line := 0 }

/-- What a member comes to, with a settled field. -/
def MemberOutcome.settled : MemberOutcome → MemberOutcome
  | .skipped => .skipped
  | .unresolved name _ => .unresolved name 0
  | .field f => .field f.settled

/-- What a member comes to, up to its line and the note of an inferred type. -/
def Member.gives (m : Member) : MemberOutcome := m.outcome.settled

/-- The plan of a lens, with a settled field. -/
def LensPlan.settled (l : LensPlan) : LensPlan := { l with field := l.field.settled }

/-- Two plans that differ in lines and in the note of inferred types only: they have the same fields in
    the same order, the same canonical signature, the same written constructor or none, and the same
    lenses with the same arguments. -/
structure Plan.Agrees (p q : Plan) : Prop where
  fields : q.fields.map Field.settled = p.fields.map Field.settled
  signature : q.signature = p.signature
  reused : q.reused.map Signature.unplaced = p.reused.map Signature.unplaced
  decision : q.emitsConstructor = p.emitsConstructor
  lenses : q.lenses.map LensPlan.settled = p.lenses.map LensPlan.settled

/-! ## Statements that stay -/

section Kept

variable {s t : Stmt} (h : Kept s t)

include h

theorem modifiersIn_kept : modifiersIn t = modifiersIn s := by
  cases h with
  | moved h => rw [← modifiersIn_unplaced, h, modifiersIn_unplaced]
  | nested => rfl

theorem memberOf_kept (modifiers : String → List String) :
    (memberOf modifiers t).map (·.map Member.unplaced) =
      (memberOf modifiers s).map (·.map Member.unplaced) := by
  cases h with
  | moved h => rw [← memberOf_unplaced, h, memberOf_unplaced]
  | nested => rfl

theorem signatureOf_kept :
    (signatureOf t).map (·.map Signature.unplaced) =
      (signatureOf s).map (·.map Signature.unplaced) := by
  cases h with
  | moved h => rw [← signatureOf_unplaced, h, signatureOf_unplaced]
  | nested => rfl

end Kept

theorem Member.unplaced_gives (m : Member) : m.unplaced.gives = m.gives := by
  have hname : m.unplaced.name? = m.name? := rfl
  have htype : m.unplaced.resolvedType? = m.resolvedType? := rfl
  have hstatic : m.unplaced.isStatic = m.isStatic := rfl
  rw [gives, gives, outcome, outcome, hname, htype, hstatic]
  cases m.isStatic with
  | true => rfl
  | false =>
    cases m.name? with
    | none => rfl
    | some name => cases m.resolvedType? <;> rfl

theorem memberOf_kept_gives {modifiers : String → List String} {s t : Stmt} (h : Kept s t)
    {m : Option Member} (hm : memberOf modifiers s = .ok m) :
    ∃ m', memberOf modifiers t = .ok m' ∧ m'.map Member.gives = m.map Member.gives := by
  have hsame := memberOf_kept h modifiers
  rw [hm] at hsame
  obtain ⟨m', hm', heq⟩ := map_eq_ok.1 hsame
  refine ⟨m', hm', ?_⟩
  calc m'.map Member.gives
      = (m'.map Member.unplaced).map Member.gives := by
        simp only [Option.map_map, Function.comp_def, Member.unplaced_gives]
    _ = (m.map Member.unplaced).map Member.gives := by rw [← heq]
    _ = m.map Member.gives := by
        simp only [Option.map_map, Function.comp_def, Member.unplaced_gives]

/-! ## Statements with their types written out -/

theorem typeName?_isEmpty_and_ne {kind : ValueKind} {type : String} (h : kind.typeName? = some type) :
    type.isEmpty = false ∧ type ≠ "ClassVar" := by
  cases kind with
  | other => exact absurd h nofun
  | _ => obtain rfl := Option.some.inj h; decide

/-- The canonical text of the call is that of the value between the two texts that are inserted. -/
theorem textOf_fieldCall {value : Expr} {text : String} (h : textOf value = .ok text) :
    textOf (fieldCall value) =
      .ok ("dataclasses.field(default=" ++ text ++ ", kw_only=True)") := by
  have hwrite : value.write false .test = .ok text := by
    simp only [textOf, Expr.text] at h
    cases hw : value.write false .test with
    | error fault => rw [hw] at h; exact absurd h error_ne_ok
    | ok t => rw [hw] at h; obtain rfl := Except.ok.inj h; rfl
  have hkeywords : writeKeywords false [.mk (some "default") value,
      .mk (some "kw_only") (.literal default (.bool true))] =
      .ok ["default" ++ "=" ++ text, "kw_only" ++ "=" ++ "True"] := by
    simp only [writeKeywords, hwrite, Expr.write]
    rfl
  have hcall : (fieldCall value).write false .test =
      .ok ("dataclasses.field" ++ "(" ++
        String.intercalate ", " ["default" ++ "=" ++ text, "kw_only" ++ "=" ++ "True"] ++ ")") := by
    simp only [fieldCall, Expr.write, writeEach, hkeywords]
    rfl
  have hjoin : String.intercalate ", " ["default" ++ "=" ++ text, "kw_only" ++ "=" ++ "True"] =
      "default" ++ "=" ++ text ++ ", " ++ ("kw_only" ++ "=" ++ "True") := rfl
  rw [textOf, Expr.text, hcall, hjoin]
  -- only the constant parts are joined by computing; the text of the value stays where it is
  have hfront : "dataclasses.field" ++ "(" ++ "default" ++ "=" = "dataclasses.field(default=" := rfl
  have hback : ", " ++ ("kw_only" ++ "=" ++ "True") ++ ")" = ", kw_only=True)" := rfl
  rw [← hfront, ← hback]
  simp only [Except.mapError, String.append_assoc]

theorem lookup_visibilityTuples {name : String} (h : isReserved name = false) :
    visibilityTuples.lookup name = none := by
  rw [List.lookup_eq_none_iff]
  intro tuple htuple
  have hreserved : isReserved tuple.1 = true := by
    revert tuple
    decide
  rw [bne_iff_ne]
  rintro rfl
  rw [hreserved] at h
  exact absurd h nofun

theorem Member.outcome_of_name {m : Member} {name : String} (hstatic : m.isStatic = false)
    (hname : m.name? = some name) :
    m.outcome = match m.resolvedType? with
      | none => .unresolved name m.line
      | some (type, inferred) =>
        .field ⟨name, type, (Visibility.ofModifiers? m.modifiers).getD .hidden, inferred, m.line⟩ := by
  rw [outcome, hstatic, hname]
  rfl

theorem memberOf_assign_name (modifiers : String → List String) (span target : Span) (id : String)
    (value : Expr) :
    memberOf modifiers (.assign span [.name target id] value) =
      if isReserved id then .ok none
      else value.classify.map fun v => some
        { bindings := [⟨id, true⟩], writtenType := none, value := some v, modifiers := modifiers id,
          isStatic := false, line := span.line } := by
  have hbindings : [Expr.name target id].mapM bindingOf = .ok [⟨id, true⟩] := rfl
  rw [memberOf, hbindings]
  cases h : isReserved id with
  | true => simp [bind, Except.bind, h]; rfl
  | false => simp [bind, Except.bind, h]; cases value.classify <;> rfl

theorem inferredFieldOf_eq_some {modifiers : String → List String} {s : Stmt} {f : Field}
    (h : inferredFieldOf modifiers s = some f) :
    ∃ m, memberOf modifiers s = .ok (some m) ∧ m.outcome = .field f ∧ f.inferred = true := by
  unfold inferredFieldOf at h
  split at h
  · rename_i m hm
    obtain ⟨hfield, hinferred⟩ := Option.filter_eq_some_iff.1 h
    refine ⟨m, hm, ?_, hinferred⟩
    cases houtcome : m.outcome with
    | field g => rw [houtcome] at hfield; exact congrArg _ (Option.some.inj hfield)
    | _ => rw [houtcome] at hfield; exact absurd hfield nofun
  · exact absurd h nofun

theorem inferredFieldOf_assign {modifiers : String → List String} {span target : Span} {id : String}
    {value : Expr} {f : Field}
    (h : inferredFieldOf modifiers (.assign span [.name target id] value) = some f) :
    isReserved id = false ∧ (∃ text, textOf value = .ok text) ∧
      value.valueKind.typeName? = some f.type ∧
      f = ⟨id, f.type, (Visibility.ofModifiers? (modifiers id)).getD .hidden, true, span.line⟩ := by
  obtain ⟨m, hm, houtcome, -⟩ := inferredFieldOf_eq_some h
  rw [memberOf_assign_name] at hm
  split at hm
  · exact absurd (Except.ok.inj hm) nofun
  · rename_i hreserved
    obtain ⟨v, hv, hm⟩ := map_eq_ok.1 hm
    obtain ⟨text, htext, hv⟩ := bind_eq_ok.1 hv
    obtain rfl := Except.ok.inj hv
    obtain rfl := Option.some.inj hm
    rw [Member.outcome_of_name rfl rfl] at houtcome
    refine ⟨Bool.eq_false_iff.2 hreserved, ⟨text, htext⟩, ?_⟩
    cases htype : value.valueKind.typeName? with
    | none =>
      simp only [Member.resolvedType?, Member.resolvedType?.fromValue, Option.bind_some, htype,
        Option.map_none] at houtcome
      exact absurd houtcome nofun
    | some type =>
      simp only [Member.resolvedType?, Member.resolvedType?.fromValue, Option.bind_some, htype,
        Option.map_some] at houtcome
      obtain rfl := MemberOutcome.field.inj houtcome
      exact ⟨rfl, rfl⟩

theorem modifiersIn_typed (modifiers : String → List String) (s : Stmt) :
    modifiersIn (s.typed modifiers) = modifiersIn s := by
  unfold Stmt.typed
  split
  · split
    · rename_i hinferred
      obtain ⟨hreserved, -⟩ := inferredFieldOf_assign hinferred
      simp [modifiersIn, namesGiven, lookup_visibilityTuples hreserved]
    · rfl
  · rfl

theorem signatureOf_typed (modifiers : String → List String) (s : Stmt) :
    signatureOf (s.typed modifiers) = signatureOf s := by
  unfold Stmt.typed
  split
  · split <;> rfl
  · rfl

theorem memberOf_annotate_fieldCall {modifiers : String → List String} {span target : Span}
    {id type text : String} {value : Expr} (hreserved : isReserved id = false)
    (htext : textOf value = .ok text) (hclass : type ≠ "ClassVar") :
    memberOf modifiers
        (.annotate span (.name target id) (.name default type) (some (fieldCall value))) =
      .ok (some
        { bindings := [⟨id, true⟩], writtenType := some type,
          value := some ⟨.other, "dataclasses.field(default=" ++ text ++ ", kw_only=True)"⟩,
          modifiers := modifiers id, isStatic := false, line := span.line }) := by
  have hvalue : (fieldCall value).classify =
      .ok ⟨.other, "dataclasses.field(default=" ++ text ++ ", kw_only=True)"⟩ := by
    rw [Expr.classify, textOf_fieldCall htext]
    rfl
  have htype : textOf (.name default type) = .ok type := rfl
  have hstatic : decide ((Expr.name default type).tail? = some "ClassVar") = false :=
    decide_eq_false fun h => hclass (Option.some.inj h)
  simp only [memberOf, hreserved, htype, hvalue, hstatic, Option.mapM_some]
  rfl

/-- With its type written out a member comes to the same field. -/
theorem memberOf_typed {modifiers : String → List String} {s : Stmt} {m : Option Member}
    (hm : memberOf modifiers s = .ok m) :
    ∃ m', memberOf modifiers (s.typed modifiers) = .ok m' ∧
      m'.map Member.gives = m.map Member.gives := by
  unfold Stmt.typed
  split
  · split
    · rename_i span target id value _ f hinferred
      obtain ⟨hreserved, ⟨text, htext⟩, htype, hf⟩ := inferredFieldOf_assign hinferred
      obtain ⟨m₀, hm₀, houtcome, -⟩ := inferredFieldOf_eq_some hinferred
      obtain rfl := Except.ok.inj (hm.symm.trans hm₀)
      obtain ⟨hne, hclass⟩ := typeName?_isEmpty_and_ne htype
      refine ⟨_, memberOf_annotate_fieldCall hreserved htext hclass, ?_⟩
      rw [Option.map_some, Option.map_some, Member.gives, Member.gives, houtcome,
        Member.outcome_of_name rfl rfl]
      simp only [Member.resolvedType?, hne, Bool.false_eq_true, if_false]
      rw [hf]
      rfl
    · exact ⟨m, hm, rfl⟩
  · exact ⟨m, hm, rfl⟩

/-! ## The new body -/

/-- A statement of the new body declares the member that the old one declared. -/
theorem memberOf_restated {modifiers : String → List String} {s t : Stmt}
    (h : Kept (s.typed modifiers) t) {m : Option Member} (hm : memberOf modifiers s = .ok m) :
    ∃ m', memberOf modifiers t = .ok m' ∧ m'.map Member.gives = m.map Member.gives := by
  obtain ⟨m₁, hm₁, heq₁⟩ := memberOf_typed hm
  obtain ⟨m₂, hm₂, heq₂⟩ := memberOf_kept_gives h hm₁
  exact ⟨m₂, hm₂, heq₂.trans heq₁⟩

theorem signatureOf_restated {modifiers : String → List String} {s t : Stmt}
    (h : Kept (s.typed modifiers) t) {c : Option Signature} (hc : signatureOf s = .ok c) :
    ∃ c', signatureOf t = .ok c' ∧ c'.map Signature.unplaced = c.map Signature.unplaced := by
  have hsame := signatureOf_kept h
  rw [signatureOf_typed, hc] at hsame
  obtain ⟨c', hc', heq⟩ := map_eq_ok.1 hsame
  exact ⟨c', hc', heq.symm⟩

theorem flatMap_modifiersIn_restated {modifiers : String → List String} {body kept : List Stmt}
    (h : List.Forall₂ (fun s t => Kept (s.typed modifiers) t) body kept) :
    kept.flatMap modifiersIn = body.flatMap modifiersIn := by
  induction h with
  | nil => rfl
  | cons h _ ih =>
    rw [List.flatMap_cons, List.flatMap_cons, ih, modifiersIn_kept h, modifiersIn_typed]

/-- What is collected from statements and their restatements is the same up to `g`, when nothing is
    found in the statements behind them. -/
theorem collected_restated {β γ : Type} {f : Stmt → Except SourceError (Option β)} {g : β → γ}
    {R : Stmt → Stmt → Prop}
    (hstep : ∀ s t, R s t → ∀ b, f s = .ok b → ∃ b', f t = .ok b' ∧ b'.map g = b.map g)
    {body kept : List Stmt} (hkept : List.Forall₂ R body kept) {extra : List Stmt}
    (hextra : ∀ s ∈ extra, f s = .ok none) : ∀ {found : List (Option β)},
    body.mapM f = .ok found → ∃ found', (kept ++ extra).mapM f = .ok found' ∧
      (found'.filterMap id).map g = (found.filterMap id).map g := by
  induction hkept with
  | nil =>
    intro found h
    obtain rfl := Except.ok.inj h
    refine ⟨extra.map fun _ => none, mapM_eq_ok hextra, ?_⟩
    rw [List.filterMap_map]
    simp
  | cons hR _ ih =>
    intro found h
    rw [List.mapM_cons, bind_eq_ok] at h
    obtain ⟨b, hb, h⟩ := h
    obtain ⟨found, hfound, h⟩ := bind_eq_ok.1 h
    obtain rfl := Except.ok.inj h
    obtain ⟨b', hb', heq⟩ := hstep _ _ hR _ hb
    obtain ⟨found', hfound', heqs⟩ := ih hfound
    refine ⟨b' :: found', ?_, ?_⟩
    · rw [List.cons_append, List.mapM_cons, hb', hfound']
      rfl
    · cases b with
      | none =>
        obtain rfl : b' = none := Option.map_eq_none_iff.1 heq
        exact heqs
      | some b =>
        obtain ⟨b', rfl, hg⟩ := Option.map_eq_some_iff.1 heq
        show g b' :: (found'.filterMap id).map g = g b :: (found.filterMap id).map g
        rw [hg, heqs]

namespace Plan.Expanded

variable {p : Plan} {body : List Stmt} (e : p.Expanded body)

theorem generated_cases {s : Stmt} (hs : s ∈ e.generated) :
    (∃ name, IsClass name s) ∨ ∃ name, name ≠ "__init__" ∧ IsFunction name s := by
  simp only [generated, List.mem_append, List.mem_cons, List.not_mem_nil, or_false,
    Option.mem_toList] at hs
  rcases hs with ((rfl | rfl) | hconstructor) | rfl
  · exact .inl ⟨_, e.isTokens⟩
  · exact .inr ⟨_, by decide, e.isAccessor⟩
  · exact .inr ⟨_, by decide, e.isConstructor s hconstructor⟩
  · exact .inl ⟨_, e.isLenses⟩

theorem memberOf_generated (modifiers : String → List String) {s : Stmt} (hs : s ∈ e.generated) :
    memberOf modifiers s = .ok none := by
  rcases e.generated_cases hs with ⟨_, _, _, _, _, rfl⟩ | ⟨_, _, _, _, _, _, rfl⟩ <;> rfl

theorem signatureOf_generated {s : Stmt} (hs : s ∈ e.generated) : signatureOf s = .ok none := by
  rcases e.generated_cases hs with ⟨_, _, _, _, _, rfl⟩ | ⟨_, hname, _, _, _, _, rfl⟩
  · rfl
  · exact signatureOf_functionDef_ne hname

theorem modifiersIn_generated {s : Stmt} (hs : s ∈ e.generated) : modifiersIn s = [] := by
  rcases e.generated_cases hs with ⟨_, _, _, _, _, rfl⟩ | ⟨_, _, _, _, _, _, rfl⟩ <;> rfl

theorem modifiersOf_statements : modifiersOf e.statements = modifiersOf body := by
  have hkept := flatMap_modifiersIn_restated e.keeps
  have hgenerated : e.generated.flatMap modifiersIn = [] :=
    List.flatMap_eq_nil_iff.2 fun s hs => e.modifiersIn_generated hs
  funext name
  rw [modifiersOf, modifiersOf, statements, List.flatMap_append, hkept, hgenerated,
    List.append_nil]

theorem membersOf_statements {members : List Member} (h : membersOf body = .ok members) :
    ∃ members', membersOf e.statements = .ok members' ∧
      members'.map Member.gives = members.map Member.gives := by
  obtain ⟨found, hfound, hmembers⟩ := bind_eq_ok.1 h
  obtain rfl := Except.ok.inj hmembers
  obtain ⟨found', hfound', hgives⟩ :=
    collected_restated (f := memberOf (modifiersOf body)) (g := Member.gives)
    (fun _ _ hR _ hm => memberOf_restated hR hm) e.keeps
    (fun s hs => e.memberOf_generated (modifiersOf body) hs) hfound
  refine ⟨found'.filterMap id, ?_, hgives⟩
  rw [membersOf, e.modifiersOf_statements, statements, hfound']
  rfl

theorem signaturesOf_statements {signatures : List Signature}
    (h : signaturesOf body = .ok signatures) :
    ∃ signatures', signaturesOf e.statements = .ok signatures' ∧
      signatures'.map Signature.unplaced = signatures.map Signature.unplaced := by
  obtain ⟨found, hfound, hsignatures⟩ := bind_eq_ok.1 h
  obtain rfl := Except.ok.inj hsignatures
  obtain ⟨found', hfound', hsame⟩ := collected_restated (f := signatureOf) (g := Signature.unplaced)
    (fun _ _ hR _ hc => signatureOf_restated hR hc) e.keeps
    (fun s hs => e.signatureOf_generated hs) hfound
  refine ⟨found'.filterMap id, ?_, hsame⟩
  rw [signaturesOf, statements, hfound']
  rfl

end Plan.Expanded

/-! ## The new plan -/

theorem fields_settled (d : Declaration) :
    d.fields.map Field.settled = (d.members.map Member.gives).filterMap MemberOutcome.field? := by
  rw [Declaration.fields, List.map_filterMap, List.filterMap_map]
  congr 1
  funext m
  show (m.outcome.field?).map Field.settled = m.outcome.settled.field?
  cases m.outcome <;> rfl

theorem canonicalSignature_settled (fields : List Field) :
    canonicalSignature (fields.map Field.settled) = canonicalSignature fields := by
  rw [canonicalSignature, canonicalSignature, List.map_map]
  rfl

theorem reusable_unplaced (d : Declaration) (canonical : Signature) :
    (d.reusable? canonical).map Signature.unplaced =
      (d.signatures.map Signature.unplaced).find? (·.servesAs canonical) := by
  rw [Declaration.reusable?, List.find?_map]
  rfl

theorem lenses_settled (p : Plan) :
    p.lenses.map LensPlan.settled = ((p.fields.map Field.settled).filter (·.isExposed)).map
      fun f => ⟨f, setterArguments f (p.reused.getD p.signature).unplaced⟩ := by
  rw [Plan.lenses, Plan.exposedFields, List.map_map, List.filter_map, List.map_map]
  rfl

/-- Records with members that come to the same and with the same written constructors have plans that
    agree. -/
theorem plan_agrees {d d' : Declaration} {p q : Plan} (hp : d.plan? = some p)
    (hq : d'.plan? = some q) (hmembers : d'.members.map Member.gives = d.members.map Member.gives)
    (hsignatures : d'.signatures.map Signature.unplaced = d.signatures.map Signature.unplaced) :
    p.Agrees q := by
  obtain rfl := plan?_eq_some hp
  obtain rfl := plan?_eq_some hq
  have hfields : d'.fields.map Field.settled = d.fields.map Field.settled := by
    rw [fields_settled, fields_settled, hmembers]
  have hcanonical : canonicalSignature d'.fields = canonicalSignature d.fields := by
    rw [← canonicalSignature_settled, hfields, canonicalSignature_settled]
  have hreused : (d'.reusable? (canonicalSignature d'.fields)).map Signature.unplaced =
      (d.reusable? (canonicalSignature d.fields)).map Signature.unplaced := by
    rw [reusable_unplaced, reusable_unplaced, hsignatures, hcanonical]
  refine ⟨hfields, hcanonical, hreused, ?_, ?_⟩
  · have hnone := congrArg Option.isNone hreused
    rwa [Option.isNone_map, Option.isNone_map] at hnone
  · have husable :
        ((d'.reusable? (canonicalSignature d'.fields)).getD
          (canonicalSignature d'.fields)).unplaced =
        ((d.reusable? (canonicalSignature d.fields)).getD (canonicalSignature d.fields)).unplaced := by
      rw [← Option.getD_map Signature.unplaced, hreused, hcanonical, Option.getD_map]
    rw [lenses_settled, lenses_settled]
    dsimp only [Plan.signature]
    rw [hfields, husable]

/-- **Expanding a record preserves it.** When the body of a record is read again after its expansion,
    its members and constructors can be collected, and the plan that is derived from them has the same
    fields in the same order with the same names, types and visibility, the same canonical signature,
    the same constructor, written or generated, and the same lenses with the same arguments. -/
theorem expanded_agrees (d : Declaration) (body : List Stmt) (p : Plan)
    (hmembers : membersOf body = .ok d.members) (hsignatures : signaturesOf body = .ok d.signatures)
    (hplan : (derive d).plan = some p) (e : p.Expanded body) :
    ∃ members signatures, membersOf e.statements = .ok members ∧
      signaturesOf e.statements = .ok signatures ∧
      ∀ d' : Declaration, d'.kind = .record → d'.members = members → d'.signatures = signatures →
        ∃ q, (derive d').plan = some q ∧ p.Agrees q := by
  obtain ⟨members, hmembers', hgives⟩ := e.membersOf_statements hmembers
  obtain ⟨signatures, hsignatures', hsame⟩ := e.signaturesOf_statements hsignatures
  refine ⟨members, signatures, hmembers', hsignatures', ?_⟩
  rintro d' hrecord rfl rfl
  have hq := Declaration.plan?_record hrecord
  exact ⟨_, (derive_plan d').trans hq, plan_agrees ((derive_plan d).symm.trans hplan) hq hgives hsame⟩

/-- The place of a statement that takes up one line of a class body. -/
def lineSpan (line width : Nat) : Span := ⟨line, 4, line, 4 + width⟩

/-- A body with a tuple of exposed names, a typed field and one whose type is that of its value. -/
def noteBody : List Stmt :=
  [.assign (lineSpan 4 25) [.name default "__public__"]
     (.tuple default [.literal default (.text (Text.points "pages") false)]),
   .annotate (lineSpan 5 10) (.name default "title") (.name default "str") none,
   .assign (lineSpan 6 10) [.name default "pages"] (.literal default (.int 10))]

def note : Declaration where
  kind := .record
  name := "Note"
  members :=
    [⟨[⟨"title", true⟩], some "str", none, [], false, 5⟩,
     ⟨[⟨"pages", true⟩], none, some ⟨.integer, "10"⟩, ["public"], false, 6⟩]
  signatures := []
  qualifiedName := "Note"
  location := ⟨sourceName, 3, 6, 0, fourBlanks⟩

def notePlan : Plan := ⟨note, note.fields, none⟩

/-- The body of the note after its expansion, six lines further down. -/
def expandedNote : notePlan.Expanded noteBody where
  kept :=
    [.assign (lineSpan 10 25) [.name default "__public__"]
       (.tuple default [.literal default (.text (Text.points "pages") false)]),
     .annotate (lineSpan 11 10) (.name default "title") (.name default "str") none,
     .annotate (lineSpan 12 54) (.name default "pages") (.name default "int")
       (some (fieldCall (.literal default (.int 10))))]
  tokens := .classDef (lineSpan 15 50) "Fields" [] [] []
  accessor := .functionDef (lineSpan 19 40) false "lens" [] default []
  constructor := some (.functionDef (lineSpan 23 40) false constructorName [] default [])
  lenses := .classDef (lineSpan 29 20) "AllLenses" [] [] []
  keeps := .cons (.moved rfl) (.cons (.moved rfl) (.cons (.moved rfl) .nil))
  isTokens := ⟨_, _, _, _, rfl⟩
  isAccessor := ⟨_, _, _, _, rfl⟩
  isConstructor := by rintro s ⟨⟩; exact ⟨_, _, _, _, rfl⟩
  constructs := rfl
  isLenses := ⟨_, _, _, _, rfl⟩

theorem expanded_agrees_note :
    membersOf noteBody = .ok note.members ∧ signaturesOf noteBody = .ok note.signatures ∧
    (derive note).plan = some notePlan ∧
    ∃ members signatures, membersOf expandedNote.statements = .ok members ∧
      signaturesOf expandedNote.statements = .ok signatures ∧
      ∀ d' : Declaration, d'.kind = .record → d'.members = members → d'.signatures = signatures →
        ∃ q, (derive d').plan = some q ∧ notePlan.Agrees q :=
  have hmembers : membersOf noteBody = .ok note.members := by decide +kernel
  have hsignatures : signaturesOf noteBody = .ok note.signatures := by decide +kernel
  have hplan : (derive note).plan = some notePlan := by decide +kernel
  ⟨hmembers, hsignatures, hplan,
    expanded_agrees note noteBody notePlan hmembers hsignatures hplan expandedNote⟩

end RecordLens
