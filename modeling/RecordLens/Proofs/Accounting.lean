import Mathlib.Tactic.ByContra
import RecordLens.Expansion.Basic
import RecordLens.Proofs.Derivation
import RecordLens.Proofs.Outcome
/-!
What an expansion accounts for: each declaration of a text gives a plan or none and what is reported
about it, in the order of the text, and a sink hears the reports in that order. Where an error is
among them, or nothing is planned, the text stays as it is.

* `Declaration.report`, `Declaration.accepted?`: what one declaration gives.
* `Progress.foldl_take`: what all declarations give, and what a sink has heard behind them.
* `expandTo_eq_account`, `expandTo_ok`: the outcome, decided by the reports and the plans.
* `expandTo_accounts`: the account of a text.
-/
namespace RecordLens

variable {σ : Type}

namespace Declaration

/-- What is reported about a declaration in a text of the given lines. -/
def report (lines : List String) (d : Declaration) : List Diagnostic :=
  if d.isExpanded lines then [.alreadyExpanded d]
  else if d.kind = .record then d.unresolved
  else [.notRecord d]

/-- The plan that is accepted for a declaration in a text of the given lines. -/
def accepted? (lines : List String) (d : Declaration) : Option Plan :=
  if d.isExpanded lines then none else d.plan?

/-- Whether a declaration is planned: it is a record without generated members. -/
def isPlanned (lines : List String) (d : Declaration) : Bool :=
  !d.isExpanded lines && d.kind = .record

theorem report_expanded {lines : List String} {d : Declaration} (h : d.isExpanded lines = true) :
    d.report lines = [.alreadyExpanded d] := if_pos h

theorem report_new {lines : List String} {d : Declaration} (h : d.isExpanded lines = false) :
    d.report lines = d.findings := by
  rw [report, h]
  rfl

theorem report_any_isError {lines : List String} {d : Declaration} :
    (d.report lines).any (·.isError) = true ↔ d.isExpanded lines = false ∧ d.kind ≠ .record := by
  cases h : d.isExpanded lines with
  | true =>
    rw [report_expanded h]
    constructor
    · intro herror
      exact absurd herror (by simp [Diagnostic.isError, Diagnostic.severity,
        Diagnostic.alreadyExpanded, Finding.severity])
    · rintro ⟨hfalse, -⟩
      exact absurd hfalse (by decide)
  | false =>
    rw [report_new h, d.findings_any_isError]
    exact ⟨fun hkind => ⟨rfl, hkind⟩, fun hkind => hkind.2⟩

theorem accepted?_expanded {lines : List String} {d : Declaration}
    (h : d.isExpanded lines = true) : d.accepted? lines = none := if_pos h

theorem accepted?_new {lines : List String} {d : Declaration} (h : d.isExpanded lines = false) :
    d.accepted? lines = (derive d).plan := by
  rw [accepted?, h, derive_plan]
  rfl

theorem plan?_of_accepted? {lines : List String} {d : Declaration} {p : Plan}
    (h : d.accepted? lines = some p) : d.plan? = some p := by
  unfold accepted? at h
  split at h
  · exact absurd h nofun
  · exact h

theorem declaration_of_accepted? {lines : List String} {d : Declaration} {p : Plan}
    (h : d.accepted? lines = some p) : p.declaration = d := by
  rw [plan?_eq_some (plan?_of_accepted? h)]

/-- Exactly the records without generated members have a plan. -/
theorem accepted?_isSome (lines : List String) (d : Declaration) :
    (d.accepted? lines).isSome = d.isPlanned lines := by
  cases hmarked : d.isExpanded lines with
  | true => rw [d.accepted?_expanded hmarked, isPlanned, hmarked]; rfl
  | false =>
    rw [d.accepted?_new hmarked, derive_plan, isPlanned, hmarked]
    by_cases hrecord : d.kind = .record
    · rw [d.plan?_record hrecord, decide_eq_true hrecord]; rfl
    · rw [d.plan?_other hrecord, decide_eq_false hrecord]; rfl

theorem map_some_accepted (lines : List String) (ds : List Declaration) :
    (ds.filterMap (·.accepted? lines)).map some =
      (ds.filter (·.isPlanned lines)).map fun d => (derive d).plan := by
  induction ds with
  | nil => rfl
  | cons d ds ih =>
    have hplanned := accepted?_isSome lines d
    rw [List.filterMap_cons, List.filter_cons, ← hplanned]
    cases haccepted : d.accepted? lines with
    | none => exact ih
    | some plan =>
      have hnew : d.isExpanded lines = false := by
        cases hmarked : d.isExpanded lines with
        | false => rfl
        | true =>
          rw [d.accepted?_expanded hmarked] at haccepted
          exact absurd haccepted (by simp)
      rw [Option.isSome_some, if_pos rfl, List.map_cons, List.map_cons]
      refine congrArg₂ List.cons ?_ ih
      rw [← haccepted, d.accepted?_new hnew]

end Declaration

/-! ## Steps and runs -/

namespace Progress

theorem take_eq (sink : Sink σ) (lines : List String) (p : Progress σ) (d : Declaration) :
    p.take sink lines d =
      ⟨p.plans ++ (d.accepted? lines).toList, p.diagnostics ++ d.report lines,
       (d.report lines).foldl sink p.heard⟩ := by
  cases h : d.isExpanded lines with
  | true =>
    rw [take, if_pos h, d.accepted?_expanded h, d.report_expanded h, Option.toList_none,
      List.append_nil]
    rfl
  | false =>
    have hnot : ¬d.isExpanded lines = true := Bool.not_eq_true _ ▸ h
    rw [take, if_neg hnot, deriveTo_eq, d.report_new h, Declaration.accepted?, if_neg hnot]

/-- All declarations add their plans and their reports, in their order. -/
theorem foldl_take (sink : Sink σ) (lines : List String) (ds : List Declaration) :
    ∀ p : Progress σ, ds.foldl (Progress.take sink lines) p =
      ⟨p.plans ++ ds.filterMap (·.accepted? lines), p.diagnostics ++ ds.flatMap (·.report lines),
       (ds.flatMap (·.report lines)).foldl sink p.heard⟩ := by
  induction ds with
  | nil => intro p; simp
  | cons d ds ih =>
    intro p
    have hplans : (d :: ds).filterMap (·.accepted? lines) =
        (d.accepted? lines).toList ++ ds.filterMap (·.accepted? lines) := by
      rw [List.filterMap_cons]
      cases d.accepted? lines <;> rfl
    rw [List.foldl_cons, ih, take_eq, hplans, List.flatMap_cons, List.foldl_append]
    simp only [List.append_assoc]

end Progress

/-! ## Outcomes -/

/-- What is known of a module before a line of it is changed. -/
def Expansion.account (lines : List String) (ds : List Declaration) (text : String) : Expansion :=
  ⟨text, ds.filterMap (·.accepted? lines), ds.flatMap (·.report lines)⟩

theorem Expansion.account_success (lines : List String) (ds : List Declaration) (text : String) :
    (account lines ds text).success = true ↔
      ∀ d ∈ ds, d.isExpanded lines = false → d.kind = .record := by
  have hany : (ds.flatMap (·.report lines)).any (·.isError) = true ↔
      ∃ d ∈ ds, (d.report lines).any (·.isError) = true := by
    rw [List.any_flatMap, List.any_eq_true]
  rw [success, Bool.not_eq_true', ← Bool.not_eq_true]
  refine Iff.trans (not_congr hany) ?_
  constructor
  · intro hnone d hd hnew
    by_contra hkind
    exact hnone ⟨d, hd, Declaration.report_any_isError.2 ⟨hnew, hkind⟩⟩
  · rintro hall ⟨d, hd, herror⟩
    obtain ⟨hnew, hkind⟩ := Declaration.report_any_isError.1 herror
    exact hkind (hall d hd hnew)

/-- The account of a module is its outcome if it has an error or no plan; else the plans decide about
    the text. The sink has heard the reports in either case. -/
theorem expandModuleTo_eq (sink : Sink σ) (tree : List Code.Stmt) (ds : List Declaration)
    (text : String) (heard : σ) :
    let lines := Text.displayLines text
    let result := Expansion.account lines ds text
    expandModuleTo sink tree ds text heard =
      (if !result.success || result.plans.isEmpty then .ok result
       else (expandLines tree lines result.plans).map fun lines =>
        { result with text := String.intercalate "\n" lines ++ "\n" },
       result.diagnostics.foldl sink heard) := by
  rw [expandModuleTo, Progress.foldl_take]
  rfl

theorem parseAll_eq_map_readModule (filename text : String) :
    Declaration.parseAll filename text = (readModule filename text).map (·.2) := by
  rw [Declaration.parseAll, readModule]
  cases parseSource filename text with
  | error e => rfl
  | ok tree =>
    cases h : Declaration.ofModule filename (.measured (Text.displayLines text)) tree with
    | error e => simp [h, bind, Except.bind, Except.map]
    | ok ds => simp [h, bind, Except.bind, Except.map, pure, Except.pure]

theorem readModule_of_parseAll {filename text : String} {ds : List Declaration}
    (h : Declaration.parseAll filename text = .ok ds) :
    ∃ tree, readModule filename text = .ok (tree, ds) := by
  rw [parseAll_eq_map_readModule] at h
  cases hread : readModule filename text with
  | error e =>
    rw [hread] at h
    exact absurd h (by simp [Except.map])
  | ok module =>
    rw [hread] at h
    exact ⟨module.1, congrArg (fun ds => Except.ok (module.1, ds)) (Except.ok.inj h)⟩

theorem expandTo_eq {filename text : String} {tree : List Code.Stmt} {ds : List Declaration}
    (h : readModule filename text = .ok (tree, ds)) (sink : Sink σ) (heard : σ) :
    expandTo sink filename text heard = expandModuleTo sink tree ds text heard := by
  rw [expandTo, h]

/-- Where there is an error or no plan, the account is the outcome. -/
theorem expandTo_eq_account {filename text : String} {ds : List Declaration}
    (hparse : Declaration.parseAll filename text = .ok ds)
    (hstays : (Expansion.account (Text.displayLines text) ds text).success = false ∨
      (Expansion.account (Text.displayLines text) ds text).plans = [])
    (sink : Sink σ) (heard : σ) :
    expandTo sink filename text heard =
      (.ok (Expansion.account (Text.displayLines text) ds text),
       (Expansion.account (Text.displayLines text) ds text).diagnostics.foldl sink heard) := by
  obtain ⟨tree, hread⟩ := readModule_of_parseAll hparse
  have hcondition : (!(Expansion.account (Text.displayLines text) ds text).success ||
      (Expansion.account (Text.displayLines text) ds text).plans.isEmpty) = true := by
    rcases hstays with hfail | hempty
    · rw [hfail, Bool.not_false, Bool.true_or]
    · rw [hempty, List.isEmpty_nil, Bool.or_true]
  rw [expandTo_eq hread, expandModuleTo_eq]
  exact congrArg (·, _) (if_pos hcondition)

theorem expandLines_ok {tree : List Code.Stmt} {lines new : List String} {plans : List Plan}
    (h : expandLines tree lines plans = .ok new) :
    ∃ changed, insertAll lines (plans.flatMap (·.insertions tree)) = .ok changed ∧
      new = insertMembers tree changed plans (!(plans.flatMap (·.insertions tree)).isEmpty) := by
  obtain ⟨changed, hchanged, hnew⟩ := bind_eq_ok.1 h
  exact ⟨changed, hchanged, (Except.ok.inj hnew).symm⟩

/-- What a run on a module that was read can come to. Its outcome differs from the account in the text
    at most, and the sink has heard the diagnostics. With an error or without a plan the text is the
    given one; else it is made of the new lines. -/
theorem expandTo_ok_of_read {filename text : String} {tree : List Code.Stmt} {ds : List Declaration}
    (hread : readModule filename text = .ok (tree, ds)) {sink : Sink σ} {heard heard' : σ}
    {e : Expansion} (hexpand : expandTo sink filename text heard = (.ok e, heard')) :
    e = { Expansion.account (Text.displayLines text) ds text with text := e.text } ∧
    heard' = e.diagnostics.foldl sink heard ∧
    ((e.success = false ∨ e.plans = []) ∧ e.text = text ∨
     e.success = true ∧ e.plans ≠ [] ∧ ∃ lines,
      expandLines tree (Text.displayLines text) e.plans = .ok lines ∧
      e.text = String.intercalate "\n" lines ++ "\n") := by
  rw [expandTo_eq hread, expandModuleTo_eq] at hexpand
  obtain ⟨houtcome, hheard⟩ := Prod.mk.inj hexpand
  split at houtcome
  · rename_i hstays
    obtain rfl := Except.ok.inj houtcome
    rw [Bool.or_eq_true, Bool.not_eq_true', List.isEmpty_iff] at hstays
    exact ⟨rfl, hheard.symm, .inl ⟨hstays, rfl⟩⟩
  · rename_i hchanges
    rw [Bool.or_eq_true, not_or, Bool.not_eq_true', Bool.not_eq_false, List.isEmpty_iff] at hchanges
    obtain ⟨lines, hlines, he⟩ := map_eq_ok.1 houtcome
    obtain rfl := he
    exact ⟨rfl, hheard.symm, .inr ⟨hchanges.1, hchanges.2, lines, hlines, rfl⟩⟩

/-- The same where only the declarations are known. -/
theorem expandTo_ok {filename text : String} {ds : List Declaration}
    (hparse : Declaration.parseAll filename text = .ok ds) {sink : Sink σ} {heard heard' : σ}
    {e : Expansion} (hexpand : expandTo sink filename text heard = (.ok e, heard')) :
    e = { Expansion.account (Text.displayLines text) ds text with text := e.text } ∧
    heard' = e.diagnostics.foldl sink heard ∧
    ((e.success = false ∨ e.plans = []) ∧ e.text = text ∨
     e.success = true ∧ e.plans ≠ [] ∧ ∃ tree lines,
      expandLines tree (Text.displayLines text) e.plans = .ok lines ∧
      e.text = String.intercalate "\n" lines ++ "\n") := by
  obtain ⟨tree, hread⟩ := readModule_of_parseAll hparse
  obtain ⟨he, hheard, htext⟩ := expandTo_ok_of_read hread hexpand
  refine ⟨he, hheard, htext.imp_right ?_⟩
  rintro ⟨hsuccess, hplans, lines, hlines⟩
  exact ⟨hsuccess, hplans, tree, lines, hlines⟩

/-- **An expansion accounts for every declaration and changes all of a text or nothing.** Its plans are
    those of the records without generated members, in the order of the text. It reports each
    declaration that has them once, each other that is no record once, and what is unresolved in
    each other record, in the order of the text; a sink hears just this. It succeeds if and only if
    every declaration without generated members is a record. With an error or without a plan the
    text is the given one. -/
theorem expandTo_accounts {filename text : String} {ds : List Declaration}
    (hparse : Declaration.parseAll filename text = .ok ds) (sink : Sink σ) {heard heard' : σ}
    {e : Expansion} (hexpand : expandTo sink filename text heard = (.ok e, heard')) :
    let lines := Text.displayLines text
    e.plans.map some = ((ds.filter (·.isPlanned lines)).map fun d => (derive d).plan) ∧
    e.diagnostics = ds.flatMap (·.report lines) ∧
    heard' = e.diagnostics.foldl sink heard ∧
    (e.success = true ↔ ∀ d ∈ ds, d.isExpanded lines = false → d.kind = .record) ∧
    (e.success = false ∨ e.plans = [] → e.text = text) := by
  intro lines
  obtain ⟨he, hheard, htext⟩ := expandTo_ok hparse hexpand
  refine ⟨?_, ?_, hheard, ?_, ?_⟩
  · rw [he]
    exact Declaration.map_some_accepted lines ds
  · rw [he]
    rfl
  · rw [he]
    exact Expansion.account_success lines ds text
  · intro hstays
    rcases htext with ⟨-, hsame⟩ | ⟨hsuccess, hsome, -⟩
    · exact hsame
    · rcases hstays with hfail | hnone
      · exact absurd (hsuccess.symm.trans hfail) (by decide)
      · exact absurd hnone hsome

/-- A text with a record whose only member has no known type, and a function. -/
def mixedText : String :=
  "@autolens\n@dataclass(frozen=True)\nclass A:\n    x = f()\n@autolens\ndef g():\n    pass\n"

/-- Its declarations. -/
def mixedDeclarations : List Declaration :=
  [{ kind := .record, name := "A"
     members := [⟨[⟨"x", true⟩], none, some ⟨.other, "f()"⟩, [], false, 4⟩]
     signatures := [], qualifiedName := "A"
     location := ⟨sourceName, 3, 4, 0, fourBlanks⟩ },
   { kind := .function, name := "g", members := [], signatures := [], qualifiedName := "g"
     location := ⟨sourceName, 6, 7, 0, fourBlanks⟩ }]

theorem expandTo_accounts_mixed :
    let lines := Text.displayLines mixedText
    let e := Expansion.account lines mixedDeclarations mixedText
    Declaration.parseAll sourceName mixedText = .ok mixedDeclarations ∧
    expandTo Sink.collector sourceName mixedText [] = (.ok e, e.diagnostics) ∧
    e.plans.map some =
      ((mixedDeclarations.filter (·.isPlanned lines)).map fun d => (derive d).plan) ∧
    e.diagnostics = mixedDeclarations.flatMap (·.report lines) ∧
    e.diagnostics = e.diagnostics.foldl Sink.collector [] ∧
    (e.success = true ↔
      ∀ d ∈ mixedDeclarations, d.isExpanded lines = false → d.kind = .record) ∧
    (e.success = false ∨ e.plans = [] → e.text = mixedText) := by
  intro lines e
  have hparse : Declaration.parseAll sourceName mixedText = .ok mixedDeclarations := by
    decide +kernel
  have hexpand : expandTo Sink.collector sourceName mixedText [] = (.ok e, e.diagnostics) := by
    rw [expandTo_eq_account hparse (.inl (by decide +kernel)), Sink.foldl_collector,
      List.nil_append]
  exact ⟨hparse, hexpand, expandTo_accounts hparse Sink.collector hexpand⟩

end RecordLens
