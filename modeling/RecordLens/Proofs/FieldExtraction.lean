import RecordLens.Proofs.Derivation
import Mathlib.Logic.ExistsUnique
/-!
What becomes of the members of a declaration. A member that all records share, or that does not bind
exactly one name, yields nothing. Every other member yields a field, or a warning that its type is unknown.
The walk over the members loses none of these and adds none, and what is told of a declaration is what the
walk finds.

* `Accounts`: the fields and the warnings that one member yields; `existsUnique_accounts`: one way for each.
* `Extracts`: those of members one after the other; `Extracts.append`: of one list behind another.
* `Declaration.extract_of_extracts`: the walk over members.
* `extraction_of_members`: walks, and derivations.
-/
namespace RecordLens

/-! ## One member -/

/-- A member binds one name and nothing else. -/
def Member.Binds (m : Member) (name : String) : Prop := m.bindings = [⟨name, true⟩]

/-- No type is written in front of the value, or an empty one. -/
def Member.Untyped (m : Member) : Prop := ∀ type, m.writtenType = some type → type = ""

/-- The types of literals. -/
inductive HasType : ValueKind → String → Prop
  | boolean : HasType .boolean "bool"
  | float : HasType .float "float"
  | integer : HasType .integer "int"
  | string : HasType .string "str"

/-- The visibility that modifiers give: the one that the first of them names that names any, else a field
    is hidden. -/
inductive MakesVisible (modifiers : List String) : Visibility → Prop
  | first {front back : List String} {modifier : String} {v : Visibility}
      (hsplit : modifiers = front ++ modifier :: back)
      (hfront : ∀ x ∈ front, Visibility.ofModifier? x = none)
      (hnamed : Visibility.ofModifier? modifier = some v) : MakesVisible modifiers v
  | none (h : ∀ x ∈ modifiers, Visibility.ofModifier? x = none) : MakesVisible modifiers .hidden

/-- The fields and the warnings that a member yields. -/
inductive Accounts (d : Declaration) (m : Member) : List Field → List Diagnostic → Prop
  | shared (hstatic : m.isStatic = true) : Accounts d m [] []
  | unnamed (hstatic : m.isStatic = false) (hname : ∀ name, ¬m.Binds name) : Accounts d m [] []
  | written {name type : String} {v : Visibility} (hstatic : m.isStatic = false) (hname : m.Binds name)
      (htype : m.writtenType = some type) (hne : type ≠ "") (hv : MakesVisible m.modifiers v) :
      Accounts d m [⟨name, type, v, false, m.line⟩] []
  | inferred {name type : String} {value : InitialValue} {v : Visibility} (hstatic : m.isStatic = false)
      (hname : m.Binds name) (huntyped : m.Untyped) (hvalue : m.value = some value)
      (htype : HasType value.kind type) (hv : MakesVisible m.modifiers v) :
      Accounts d m [⟨name, type, v, true, m.line⟩] []
  | unresolved {name : String} (hstatic : m.isStatic = false) (hname : m.Binds name)
      (huntyped : m.Untyped)
      (hvalue : ∀ value, m.value = some value → ∀ type, ¬HasType value.kind type) :
      Accounts d m [] [.unresolvedType d name m.line]

variable {d : Declaration} {m : Member} {name : String}

theorem ValueKind.typeName?_eq_some_iff {kind : ValueKind} {type : String} :
    kind.typeName? = some type ↔ HasType kind type := by
  constructor
  · intro h
    cases kind with
    | other => exact absurd h nofun
    | boolean => exact Option.some.inj h ▸ .boolean
    | float => exact Option.some.inj h ▸ .float
    | integer => exact Option.some.inj h ▸ .integer
    | string => exact Option.some.inj h ▸ .string
  · intro h
    cases h <;> rfl

theorem makesVisible_iff {modifiers : List String} {v : Visibility} :
    MakesVisible modifiers v ↔ (Visibility.ofModifiers? modifiers).getD .hidden = v := by
  constructor
  · intro h
    cases h with
    | first hsplit hfront hnamed =>
      rw [Visibility.ofModifiers?, List.findSome?_eq_some_iff.2 ⟨_, _, _, hsplit, hnamed, hfront⟩]
      rfl
    | none h =>
      rw [Visibility.ofModifiers?, List.findSome?_eq_none_iff.2 h]
      rfl
  · rintro rfl
    cases h : Visibility.ofModifiers? modifiers with
    | none => exact .none (List.findSome?_eq_none_iff.1 h)
    | some v =>
      obtain ⟨front, modifier, back, hsplit, hnamed, hfront⟩ := List.findSome?_eq_some_iff.1 h
      exact .first hsplit hfront hnamed

theorem Member.resolvedType?_of_untyped (h : m.Untyped) :
    m.resolvedType? = (m.value.bind (·.kind.typeName?)).map fun type => (type, true) := by
  unfold Member.resolvedType?
  split
  next type htype => rw [if_pos (String.isEmpty_iff.2 (h type htype)), resolvedType?.fromValue]
  next => rfl

theorem Member.resolvedType?_of_written {type : String} (h : m.writtenType = some type)
    (hne : type ≠ "") : m.resolvedType? = some (type, false) := by
  unfold Member.resolvedType?
  rw [h]
  exact if_neg (mt String.isEmpty_iff.1 hne)

theorem accounts_outcome (d : Declaration) (m : Member) :
    Accounts d m m.outcome.field?.toList (d.finding? m).toList := by
  have hv := makesVisible_iff.2 (rfl : (Visibility.ofModifiers? m.modifiers).getD .hidden = _)
  unfold Declaration.finding? Member.outcome
  cases hstatic : m.isStatic with
  | true => exact .shared hstatic
  | false =>
    rw [if_neg Bool.false_ne_true]
    cases hname : m.name? with
    | none =>
      exact .unnamed hstatic fun name h => nomatch hname.symm.trans (Member.name?_eq_some_iff.2 h)
    | some name =>
      have hbinds := Member.name?_eq_some_iff.1 hname
      by_cases huntyped : m.Untyped
      · rw [Member.resolvedType?_of_untyped huntyped]
        cases htype : m.value.bind (·.kind.typeName?) with
        | none =>
          refine .unresolved hstatic hbinds huntyped fun value hvalue type hhas => ?_
          exact Option.eq_none_iff_forall_ne_some.1 htype type
            (Option.bind_eq_some_iff.2 ⟨value, hvalue, ValueKind.typeName?_eq_some_iff.2 hhas⟩)
        | some type =>
          obtain ⟨value, hvalue, hkind⟩ := Option.bind_eq_some_iff.1 htype
          exact .inferred hstatic hbinds huntyped hvalue (ValueKind.typeName?_eq_some_iff.1 hkind) hv
      · obtain ⟨type, hnot⟩ := Classical.not_forall.1 huntyped
        obtain ⟨hwritten, hne⟩ := Classical.not_imp.1 hnot
        rw [Member.resolvedType?_of_written hwritten hne]
        exact .written hstatic hbinds hwritten hne hv

theorem outcome_of_accounts {fields : List Field} {warnings : List Diagnostic}
    (h : Accounts d m fields warnings) :
    m.outcome.field?.toList = fields ∧ (d.finding? m).toList = warnings := by
  unfold Declaration.finding? Member.outcome
  cases h with
  | shared hstatic => simp [hstatic, MemberOutcome.field?]
  | unnamed hstatic hname =>
    have hnone : m.name? = none :=
      Option.eq_none_iff_forall_ne_some.2 fun name h => hname name (Member.name?_eq_some_iff.1 h)
    simp [hstatic, hnone, MemberOutcome.field?]
  | written hstatic hname htype hne hv =>
    simp [hstatic, Member.name?_eq_some_iff.2 hname, Member.resolvedType?_of_written htype hne,
      makesVisible_iff.1 hv, MemberOutcome.field?]
  | inferred hstatic hname huntyped hvalue htype hv =>
    simp [hstatic, Member.name?_eq_some_iff.2 hname, Member.resolvedType?_of_untyped huntyped, hvalue,
      ValueKind.typeName?_eq_some_iff.2 htype, makesVisible_iff.1 hv, MemberOutcome.field?]
  | unresolved hstatic hname huntyped hvalue =>
    have hnone : m.value.bind (·.kind.typeName?) = none := by
      refine Option.eq_none_iff_forall_ne_some.2 fun type h => ?_
      obtain ⟨value, hvalue', hkind⟩ := Option.bind_eq_some_iff.1 h
      exact hvalue value hvalue' type (ValueKind.typeName?_eq_some_iff.1 hkind)
    simp [hstatic, Member.name?_eq_some_iff.2 hname, Member.resolvedType?_of_untyped huntyped, hnone,
      MemberOutcome.field?]

/-- **A member is accounted for in exactly one way.** -/
theorem existsUnique_accounts (d : Declaration) (m : Member) :
    ∃! parts : List Field × List Diagnostic, Accounts d m parts.1 parts.2 := by
  refine ⟨(m.outcome.field?.toList, (d.finding? m).toList), accounts_outcome d m, ?_⟩
  rintro ⟨fields, warnings⟩ h
  obtain ⟨rfl, rfl⟩ := outcome_of_accounts h
  rfl

theorem Accounts.warning {fields : List Field} {warnings : List Diagnostic}
    (h : Accounts d m fields warnings) {w : Diagnostic} (hw : w ∈ warnings) : ∃ name,
      m.isStatic = false ∧ m.Binds name ∧ fields = [] ∧ warnings = [w] ∧
      w.finding = .unresolvedType d.name name ∧ w.severity = .warning ∧
      w.finding.id = "unresolvedFieldType" := by
  cases h with
  | unresolved hstatic hname =>
    obtain rfl := List.mem_singleton.1 hw
    exact ⟨_, hstatic, hname, rfl, rfl, rfl, rfl, rfl⟩
  | _ => exact absurd hw List.not_mem_nil

/-! ## Members one after the other -/

/-- The fields and the warnings that members yield, in their order. -/
inductive Extracts (d : Declaration) : List Member → List Field → List Diagnostic → Prop
  | nil : Extracts d [] [] []
  | cons {m : Member} {members : List Member} {fields more : List Field}
      {warnings others : List Diagnostic} (h : Accounts d m fields warnings)
      (hs : Extracts d members more others) :
      Extracts d (m :: members) (fields ++ more) (warnings ++ others)

variable {members rest : List Member} {fields more : List Field} {warnings others : List Diagnostic}

theorem Extracts.append (h : Extracts d members fields warnings) (hrest : Extracts d rest more others) :
    Extracts d (members ++ rest) (fields ++ more) (warnings ++ others) := by
  induction h with
  | nil => exact hrest
  | cons h _ ih =>
    rw [List.cons_append, List.append_assoc, List.append_assoc]
    exact .cons h ih

/-- Every list of members yields what the walk keeps and tells. -/
theorem extracts_filterMap (d : Declaration) (members : List Member) :
    Extracts d members (members.filterMap (·.outcome.field?)) (members.filterMap d.finding?) := by
  induction members with
  | nil => exact .nil
  | cons m members ih =>
    have hcons {β : Type} (f : Member → Option β) :
        (m :: members).filterMap f = (f m).toList ++ members.filterMap f := by
      cases h : f m <;> simp [h]
    rw [hcons, hcons]
    exact .cons (accounts_outcome d m) ih

theorem Extracts.eq_filterMap (h : Extracts d members fields warnings) :
    fields = members.filterMap (·.outcome.field?) ∧ warnings = members.filterMap d.finding? := by
  induction h with
  | nil => exact ⟨rfl, rfl⟩
  | @cons m members _ _ _ _ h _ ih =>
    obtain ⟨rfl, rfl⟩ := outcome_of_accounts h
    obtain ⟨rfl, rfl⟩ := ih
    constructor
    · cases hf : m.outcome.field? <;> simp [hf]
    · cases hf : d.finding? m <;> simp [hf]

theorem Extracts.exists_accounts (h : Extracts d members fields warnings) {w : Diagnostic}
    (hw : w ∈ warnings) : ∃ m ∈ members, ∃ own found, w ∈ found ∧ Accounts d m own found := by
  induction h with
  | nil => exact absurd hw List.not_mem_nil
  | cons h _ ih =>
    rcases List.mem_append.1 hw with hw | hw
    · exact ⟨_, List.mem_cons_self, _, _, hw, h⟩
    · obtain ⟨m, hm, hfound⟩ := ih hw
      exact ⟨m, List.mem_cons_of_mem _ hm, hfound⟩

/-- **The walk over members keeps the fields that they yield, and tells the warnings.** -/
theorem Declaration.extract_of_extracts {σ : Type} (sink : Sink σ) (heard : σ)
    (h : Extracts d members fields warnings) :
    d.extract sink members heard = (fields, warnings.foldl sink heard) := by
  obtain ⟨rfl, rfl⟩ := h.eq_filterMap
  exact d.extract_eq sink members heard

/-- The walk over members goes on where it has come to. -/
theorem Declaration.extract_append {σ : Type} (d : Declaration) (sink : Sink σ) (heard : σ)
    (members rest : List Member) : d.extract sink (members ++ rest) heard =
      ((d.extract sink members heard).1 ++ (d.extract sink rest (d.extract sink members heard).2).1,
        (d.extract sink rest (d.extract sink members heard).2).2) := by
  have hmembers := extracts_filterMap d members
  have hrest := extracts_filterMap d rest
  rw [extract_of_extracts sink heard (hmembers.append hrest), extract_of_extracts sink heard hmembers,
    extract_of_extracts sink _ hrest, List.foldl_append]

/-! ## Derivations -/

theorem deriveTo_of_extracts {σ : Type} (sink : Sink σ) (heard : σ) (hkind : d.kind = .record)
    (h : Extracts d d.members fields warnings) : deriveTo sink d heard =
      (⟨some ⟨d, fields, d.reusable? (canonicalSignature fields)⟩, warnings⟩,
        warnings.foldl sink heard) := by
  obtain ⟨hfields, hwarnings⟩ := h.eq_filterMap
  obtain rfl : fields = d.fields := hfields
  obtain rfl : warnings = d.unresolved := hwarnings.trans d.unresolved_eq.symm
  rw [deriveTo_eq, d.plan?_record hkind, Declaration.findings, if_pos hkind]

theorem deriveTo_other {σ : Type} (sink : Sink σ) (heard : σ) (hkind : d.kind ≠ .record) :
    deriveTo sink d heard = (⟨none, [.notRecord d]⟩, sink heard (.notRecord d)) := by
  rw [deriveTo_eq, d.plan?_other hkind, Declaration.findings, if_neg hkind]
  rfl

/-- **Extraction loses nothing and invents nothing.** Every member is accounted for in one way. The members
    of a list yield fields and warnings in their order, which the walk keeps and tells whoever listens; over
    one list behind another it goes from the one to the other. A record is derived from the fields of its
    members, with their warnings and no other diagnostics; of what is no record there is one error and no
    plan. What is returned is what is told. -/
theorem extraction_of_members (d : Declaration) :
    (∀ m, ∃! parts : List Field × List Diagnostic, Accounts d m parts.1 parts.2) ∧
    (∀ members, ∃ fields warnings, Extracts d members fields warnings ∧
      (∀ w ∈ warnings, ∃ m ∈ members, ∃ name, m.Binds name ∧ m.isStatic = false ∧
        Accounts d m [] [w] ∧ w.finding = .unresolvedType d.name name ∧ w.severity = .warning ∧
        w.finding.id = "unresolvedFieldType") ∧
      ∀ {σ : Type} (sink : Sink σ) (heard : σ),
        d.extract sink members heard = (fields, warnings.foldl sink heard)) ∧
    (∀ {σ : Type} (sink : Sink σ) (heard : σ) (members rest : List Member),
      d.extract sink (members ++ rest) heard =
        ((d.extract sink members heard).1 ++ (d.extract sink rest (d.extract sink members heard).2).1,
          (d.extract sink rest (d.extract sink members heard).2).2)) ∧
    ∃ fields warnings, Extracts d d.members fields warnings ∧
      ∀ {σ : Type} (sink : Sink σ) (heard : σ),
        (d.kind = .record → deriveTo sink d heard =
          (⟨some ⟨d, fields, d.reusable? (canonicalSignature fields)⟩, warnings⟩,
            warnings.foldl sink heard)) ∧
        (d.kind ≠ .record → deriveTo sink d heard =
            (⟨none, [.notRecord d]⟩, sink heard (.notRecord d)) ∧
          (Diagnostic.notRecord d).isError = true) := by
  refine ⟨existsUnique_accounts d, fun members => ?_, d.extract_append, ?_⟩
  · have hextracts := extracts_filterMap d members
    refine ⟨_, _, hextracts, fun w hw => ?_, fun sink heard => ?_⟩
    · obtain ⟨m, hm, own, found, hfound, haccounts⟩ := hextracts.exists_accounts hw
      obtain ⟨name, hstatic, hname, rfl, rfl, hfinding, hseverity, hid⟩ := haccounts.warning hfound
      exact ⟨m, hm, name, hname, hstatic, haccounts, hfinding, hseverity, hid⟩
    · exact Declaration.extract_of_extracts sink heard hextracts
  · refine ⟨_, _, extracts_filterMap d d.members, fun sink heard => ⟨fun hkind => ?_, fun hkind => ?_⟩⟩
    · exact deriveTo_of_extracts sink heard hkind (extracts_filterMap d d.members)
    · exact ⟨deriveTo_other sink heard hkind, rfl⟩

end RecordLens
