import RecordLens.Plan.Basic
/-!
What deriving a plan comes to, whoever listens: the walk over the members yields the fields and the
findings of the declaration, the plan is that of the declaration, and a sink is told the findings one
by one.

* `Declaration.extract_eq`: the walk over the members.
* `deriveTo_eq`: the plan, the diagnostics, and what a sink has heard.
-/
namespace RecordLens

variable {σ : Type}

theorem Sink.foldl_collector (found : List Diagnostic) : ∀ heard : List Diagnostic,
    found.foldl Sink.collector heard = heard ++ found := by
  induction found with
  | nil => intro heard; rw [List.foldl_nil, List.append_nil]
  | cons d found ih =>
    intro heard
    rw [List.foldl_cons, ih, Sink.collector, List.append_assoc, List.singleton_append]

theorem Member.typeName_of_fromValue {m : Member} {type : String} {inferred : Bool}
    (h : resolvedType?.fromValue m = some (type, inferred)) :
    ∃ kind : ValueKind, kind.typeName? = some type := by
  obtain ⟨name, hname, heq⟩ := Option.map_eq_some_iff.1 h
  obtain ⟨value, -, hkind⟩ := Option.bind_eq_some_iff.1 hname
  exact ⟨value.kind, hkind.trans (congrArg some (congrArg Prod.fst heq))⟩

theorem Member.name?_eq_some_iff {m : Member} {name : String} :
    m.name? = some name ↔ m.bindings = [⟨name, true⟩] := by
  unfold Member.name?
  split
  next b hbindings =>
    obtain ⟨text, isIdentifier⟩ := b
    cases isIdentifier <;> simp [hbindings]
  next hnot =>
    exact ⟨nofun, fun h => absurd h (hnot _)⟩

namespace Declaration

/-- What is found about a member. -/
def finding? (d : Declaration) (m : Member) : Option Diagnostic :=
  match m.outcome with
  | .unresolved name line => some (.unresolvedType d name line)
  | _ => none

theorem unresolved_eq (d : Declaration) : d.unresolved = d.members.filterMap d.finding? := rfl

/-- The walk over members keeps the fields, and it tells each finding when it comes to the member. -/
theorem extract_eq (d : Declaration) (sink : Sink σ) (members : List Member) : ∀ heard : σ,
    d.extract sink members heard =
      (members.filterMap (·.outcome.field?), (members.filterMap d.finding?).foldl sink heard) := by
  induction members with
  | nil => intro heard; rfl
  | cons m members ih =>
    intro heard
    rw [extract, List.filterMap_cons, List.filterMap_cons, finding?]
    cases houtcome : m.outcome with
    | skipped => exact ih heard
    | unresolved name line => exact ih (sink heard (.unresolvedType d name line))
    | field f => simp only [ih heard, MemberOutcome.field?]

/-- All that is found about a declaration without generated members. -/
def findings (d : Declaration) : List Diagnostic :=
  if d.kind = .record then d.unresolved else [.notRecord d]

theorem plan?_record {d : Declaration} (h : d.kind = .record) :
    d.plan? = some ⟨d, d.fields, d.reusable? (canonicalSignature d.fields)⟩ := if_pos h

theorem plan?_other {d : Declaration} (h : d.kind ≠ .record) : d.plan? = none := if_neg h

theorem record_of_plan? {d : Declaration} {p : Plan} (h : d.plan? = some p) : d.kind = .record :=
  Decidable.byContradiction fun hother => absurd ((plan?_other hother).symm.trans h) nofun

/-- Among the findings is an error if and only if the declaration is no record. -/
theorem findings_any_isError (d : Declaration) :
    d.findings.any (·.isError) = true ↔ d.kind ≠ .record := by
  by_cases h : d.kind = .record
  · rw [findings, if_pos h, List.any_eq_true]
    constructor
    · rintro ⟨x, hx, herror⟩
      obtain ⟨m, _, hm⟩ := List.mem_filterMap.1 (d.unresolved_eq ▸ hx)
      have hwarning : x.isError = false := by
        unfold finding? at hm
        split at hm
        · rw [← Option.some.inj hm]
          rfl
        · exact absurd hm (by simp)
      exact absurd (hwarning.symm.trans herror) (by decide)
    · exact fun hne => absurd h hne
  · rw [findings, if_neg h]
    exact ⟨fun _ => h, fun _ => rfl⟩

end Declaration

/-- The plan of a declaration is made of its fields and the written constructor that serves. -/
theorem plan?_eq_some {d : Declaration} {p : Plan} (h : d.plan? = some p) :
    p = ⟨d, d.fields, d.reusable? (canonicalSignature d.fields)⟩ := by
  unfold Declaration.plan? at h
  split at h
  · exact (Option.some.inj h).symm
  · exact absurd h nofun

/-- **Deriving is independent of who listens.** The plan is that of the declaration, its diagnostics
    are the findings, and the sink is told exactly these. -/
theorem deriveTo_eq (sink : Sink σ) (d : Declaration) (heard : σ) :
    deriveTo sink d heard = (⟨d.plan?, d.findings⟩, d.findings.foldl sink heard) := by
  by_cases h : d.kind = .record
  · rw [deriveTo, if_pos h, d.extract_eq, Sink.foldl_collector, List.nil_append, d.plan?_record h,
      Declaration.findings, if_pos h]
    rfl
  · rw [deriveTo, if_neg h, d.plan?_other h, Declaration.findings, if_neg h]
    rfl

theorem derive_plan (d : Declaration) : (derive d).plan = d.plan? := by
  rw [derive, deriveTo_eq]

end RecordLens
