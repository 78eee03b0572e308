import RecordLens.Plan.Registering
import RecordLens.Proofs.GeneratedLens
import RecordLens.Proofs.Registry
/-!
The registry that the generated code of a record builds. The tokens, the lenses and the entries of the
registry are three listings that are written apart; where the names of the fields are different they
agree entry by entry, so that each token finds the lens of its own field and nothing else finds any.

* `Plan.Listed`: the generated text lists the tokens, the lenses and the entries.
* `Plan.registry_eq`: the registry that comes of the entries.
* `Plan.Registered`: what a registry of a plan knows.
* `registry_isolated`: the registry of every plan in every module, and what it keeps apart.
-/
namespace RecordLens
namespace Plan

variable {V : Type} (p : Plan) (moduleName : String)

/-- The lens of a field. -/
def lensPlan (f : Field) : LensPlan := ⟨f, setterArguments f p.usableSignature⟩

/-- The reference to a field in a module. -/
def reference (f : Field) : FieldRef := ⟨p.path, f.name, moduleName⟩

/-- The lens of each exposed field under the reference to that field, in the order of the fields. -/
def lensTable : Registry (Lens RunFault (Attributes V) V) :=
  ⟨p.path, p.exposedFields.map fun f => (p.reference moduleName f, p.lens (p.lensPlan f))⟩

theorem lenses_eq : p.lenses = p.exposedFields.map p.lensPlan := rfl

theorem lensTable_refs : (p.lensTable moduleName (V := V)).refs =
    p.exposedFields.map (p.reference moduleName) := by
  rw [Registry.refs, lensTable, List.map_map]
  rfl

/-! ## Text -/

theorem tokenLine_eq (f : Field) :
    p.tokenLine f = step ++ TokenDefinition.text ⟨f.name, f.type, ⟨p.path, f.name⟩⟩ := by
  simp only [tokenLine, token, TokenDefinition.text, TokenExpr.text, String.append_assoc]

/-- The generated text as listings: the definitions of tokens, the lenses, and the entries of the
    registry, with what stands around them. -/
structure Listed (p : Plan) : Prop where
  tokens : p.accessorLines =
    ["class Fields:"] ++
    (if p.tokenDefinitions.isEmpty then [step ++ "pass"]
     else p.tokenDefinitions.map (step ++ ·.text)) ++
    ["",
     "@classmethod",
     "def lens(cls, path: FieldRef[" ++ p.path ++ ", FocusT]) -> Lens[" ++ p.path ++ ", FocusT]:",
     step ++ "return cls.AllLenses.registry.lookup(path)"]
  lenses : p.lensesLines =
    "class AllLenses:" ::
    ((p.exposedFields.flatMap fun f => p.lensLines (p.lensPlan f) ++ [""]) ++
      p.registryLines).map (indented step)
  entries : p.registryLines =
    if p.entryExprs.isEmpty then
      ["registry: LensRegistry[" ++ p.path ++ "] = LensRegistry(\"" ++ p.path ++ "\", \x7b\x7d)"]
    else
      ["registry: LensRegistry[" ++ p.path ++ "] = LensRegistry(",
       step ++ "\"" ++ p.path ++ "\",",
       step ++ "\x7b"] ++
      p.entryExprs.map (fun e => step ++ step ++ e.text) ++
      [step ++ "\x7d,",
       ")"]

theorem listed : p.Listed where
  tokens := by
    have hlines : p.tokenDefinitions.map (step ++ ·.text) = p.exposedFields.map p.tokenLine := by
      rw [tokenDefinitions, List.map_map]
      exact List.map_congr_left fun f _ => (p.tokenLine_eq f).symm
    rw [accessorLines, hlines, tokenDefinitions, List.isEmpty_map]
  lenses := by
    rw [lensesLines, lenses_eq, List.flatMap_map]
  entries := by
    rw [registryLines, entryExprs, List.isEmpty_map, List.map_map]
    rfl

/-! ## The three listings -/

section
variable {p} (hdistinct : (p.fields.map (·.name)).Nodup)
include hdistinct

theorem exposedFields_names : (p.exposedFields.map (·.name)).Nodup :=
  List.Nodup.sublist (List.Sublist.map _ List.filter_sublist) hdistinct

theorem storeAll_exposedFields {W : Type} (value : Field → W) :
    Attributes.storeAll (p.exposedFields.map fun f => (f.name, value f)) =
      p.exposedFields.map fun f => (f.name, value f) := by
  refine Attributes.storeAll_eq_self ?_
  rw [Attributes.names, List.map_map]
  exact exposedFields_names hdistinct

theorem tokens_eq :
    p.tokens moduleName = p.exposedFields.map fun f => (f.name, p.reference moduleName f) := by
  rw [tokens, tokenDefinitions, List.map_map]
  exact storeAll_exposedFields hdistinct (p.reference moduleName)

theorem namedLenses_eq :
    (p.namedLenses : List (String × Lens RunFault (Attributes V) V)) =
      p.exposedFields.map fun f => (f.name, p.lens (p.lensPlan f)) := by
  rw [namedLenses, lenses_eq, List.map_map]
  exact storeAll_exposedFields hdistinct fun f => p.lens (p.lensPlan f)

theorem entry_eq {f : Field} (hf : f ∈ p.exposedFields) :
    p.entry moduleName ⟨⟨p.path, f.name⟩, f.name⟩ =
      .ok (p.reference moduleName f, (p.lens (p.lensPlan f) : Lens RunFault (Attributes V) V)) := by
  have hnames : (Attributes.names (p.namedLenses (V := V))).Nodup := by
    rw [Attributes.names, namedLenses_eq hdistinct, List.map_map]
    exact exposedFields_names hdistinct
  have hmem : (f.name, p.lens (p.lensPlan f)) ∈ (p.namedLenses (V := V)) := by
    rw [namedLenses_eq hdistinct]
    exact List.mem_map_of_mem hf
  have hlookup : p.namedLenses.lookup f.name = some (p.lens (p.lensPlan f)) :=
    Attributes.lookup_of_mem hnames hmem
  rw [entry, hlookup]
  rfl

theorem references_nodup : (p.exposedFields.map (p.reference moduleName)).Nodup := by
  have hnames := exposedFields_names hdistinct
  rw [show p.exposedFields.map (·.name) =
    (p.exposedFields.map (p.reference moduleName)).map (·.name) by rw [List.map_map]; rfl] at hnames
  exact hnames.of_map _

/-- **The registry of a plan** has the lens of each exposed field under the reference to that field. -/
theorem registry_eq : p.registry moduleName = .ok (p.lensTable moduleName (V := V)) := by
  have hentries :
      p.entryExprs.mapM (p.entry moduleName) = .ok (p.lensTable moduleName (V := V)).entries := by
    rw [entryExprs, lenses_eq, List.map_map, List.mapM_map]
    exact mapM_eq_ok fun f hf => entry_eq moduleName hdistinct hf
  have hrefs : (p.lensTable moduleName (V := V)).refs.Nodup := by
    rw [lensTable_refs]
    exact references_nodup moduleName hdistinct
  rw [registry, hentries]
  exact congrArg Except.ok (congrArg (Registry.mk p.path) (Registry.ofEntries_entries p.path hrefs))

end

/-! ## What is found -/

/-- What a registry of a plan in a module knows. -/
structure Registered (p : Plan) (moduleName : String)
    (r : Registry (Lens RunFault (Attributes V) V)) : Prop where
  owner : r.owner = p.path
  /-- There is one entry for each exposed field, in the order of the fields. -/
  entries : r.entries = p.exposedFields.map fun f =>
    (p.reference moduleName f, p.lens (p.lensPlan f))
  /-- The tokens are listed as the entries are. -/
  tokens : p.tokens moduleName = r.entries.map fun e => (e.1.name, e.1)
  /-- The lenses are listed as the entries are. -/
  lenses : p.namedLenses = r.entries.map fun e => (e.1.name, e.2)
  /-- The token of a field finds the lens of the field. -/
  found : ∀ f ∈ p.exposedFields, ∃ token, (p.tokens moduleName).lookup f.name = some token ∧
    r.lookup token = .ok (p.lens (p.lensPlan f))
  /-- Nothing but a token finds a lens. -/
  refused : ∀ ref, ref ∉ (p.tokens moduleName).map (·.2) →
    r.lookup ref = .error (.unknownField p.path ref) ∧ r.contains ref = false
  /-- No reference to a field that is not exposed is a token. -/
  hidden : ∀ f ∈ p.fields, f.isExposed = false →
    p.reference moduleName f ∉ (p.tokens moduleName).map (·.2)

section
variable {p} (hdistinct : (p.fields.map (·.name)).Nodup)
include hdistinct

theorem tokens_references :
    (p.tokens moduleName).map (·.2) = p.exposedFields.map (p.reference moduleName) := by
  rw [tokens_eq moduleName hdistinct, List.map_map]
  rfl

/-- A reference to a field that is not exposed is no token: its name would be that of an exposed
    field, and so it would be that field. -/
theorem reference_not_mem_tokens {f : Field} (hf : f ∈ p.fields) (hhidden : f.isExposed = false) :
    p.reference moduleName f ∉ (p.tokens moduleName).map (·.2) := by
  rw [tokens_references moduleName hdistinct]
  intro hmem
  obtain ⟨g, hg, href⟩ := List.mem_map.1 hmem
  obtain ⟨hgfields, hexposed⟩ := List.mem_filter.1 hg
  have hname : g.name = f.name := congrArg FieldRef.name href
  have hsame : g = f := List.inj_on_of_nodup_map hdistinct hgfields hf hname
  rw [hsame, hhidden] at hexposed
  exact absurd hexposed Bool.false_ne_true

/-- The registry of a plan knows its own tokens and nothing else. -/
theorem registered : Registered p moduleName (p.lensTable moduleName (V := V)) := by
  have hrefs : (p.lensTable moduleName (V := V)).refs = (p.tokens moduleName).map (·.2) :=
    (p.lensTable_refs moduleName).trans (tokens_references moduleName hdistinct).symm
  refine ⟨rfl, rfl, ?_, ?_, ?_, ?_, ?_⟩
  · rw [tokens_eq moduleName hdistinct, lensTable, List.map_map]
    rfl
  · rw [namedLenses_eq hdistinct, lensTable, List.map_map]
    rfl
  · intro f hf
    have hnames : (Attributes.names (p.tokens moduleName)).Nodup := by
      rw [Attributes.names, tokens_eq moduleName hdistinct, List.map_map]
      exact exposedFields_names hdistinct
    have htoken : (f.name, p.reference moduleName f) ∈ p.tokens moduleName := by
      rw [tokens_eq moduleName hdistinct]
      exact List.mem_map_of_mem hf
    refine ⟨p.reference moduleName f, Attributes.lookup_of_mem hnames htoken,
      Registry.lookup_of_mem ?_ (List.mem_map_of_mem hf)⟩
    rw [lensTable_refs]
    exact references_nodup moduleName hdistinct
  · intro ref href
    rw [← hrefs] at href
    exact ⟨Registry.lookup_of_not_mem href, Registry.contains_of_not_mem href⟩
  · intro f hf hhidden
    exact reference_not_mem_tokens moduleName hdistinct hf hhidden

end

theorem owner_of_mem_tokens {token : FieldRef} (h : token ∈ (p.tokens moduleName).map (·.2)) :
    token.owner = p.path ∧ token.moduleName = moduleName := by
  obtain ⟨e, he, rfl⟩ := List.mem_map.1 h
  obtain ⟨d, hd, rfl⟩ := List.mem_map.1 (Attributes.mem_of_mem_storeAll he)
  obtain ⟨f, -, rfl⟩ := List.mem_map.1 hd
  exact ⟨rfl, rfl⟩

end Plan

/-- **The generated registry is sound, complete and isolated.** Where the names of the fields are
    different, the generated text builds a registry in every module. It has one entry for each exposed
    field, in the order of the fields and of the tokens and lenses that are defined beside it; the
    token of a field finds the lens of that field, and every other reference is refused with the owner
    and the reference. So the tokens of plans with other paths, and those of other modules, are
    refused. -/
theorem registry_isolated (p : Plan) (hdistinct : (p.fields.map (·.name)).Nodup)
    (moduleName : String) (V : Type) :
    p.Listed ∧
    ∃ r : Registry (Lens RunFault (Attributes V) V), p.registry moduleName = .ok r ∧
      p.Registered moduleName r ∧
      ∀ (other : Plan) (otherModule : String), other.path ≠ p.path ∨ otherModule ≠ moduleName →
        ∀ token ∈ (other.tokens otherModule).map (·.2),
          r.lookup token = .error (.unknownField p.path token) ∧ r.contains token = false := by
  have hregistered := Plan.registered (V := V) moduleName hdistinct
  refine ⟨p.listed, p.lensTable moduleName, Plan.registry_eq moduleName hdistinct, hregistered, ?_⟩
  intro other otherModule hother token htoken
  refine hregistered.refused token fun hown => ?_
  obtain ⟨howner, hmodule⟩ := p.owner_of_mem_tokens moduleName hown
  obtain ⟨howner', hmodule'⟩ := other.owner_of_mem_tokens otherModule htoken
  rcases hother with hpath | hname
  · exact hpath (howner'.symm.trans howner)
  · exact hname (hmodule'.symm.trans hmodule)

/-- References that print alike are different all the same. -/
example : FieldRef.path ⟨"A.B", "c", ""⟩ = FieldRef.path ⟨"A", "B.c", ""⟩ ∧
    (⟨"A.B", "c", ""⟩ : FieldRef) ≠ ⟨"A", "B.c", ""⟩ := by decide

/-- A plan with two exposed fields and a hidden one. -/
def savingsPlan (path : String) : Plan := ⟨{ savings with qualifiedName := path }, savings.fields, none⟩

theorem registry_isolated_savings :
    let p := savingsPlan "Savings"
    (p.fields.map (·.name)).Nodup ∧
    p.Listed ∧
    ∃ r : Registry (Lens RunFault (Attributes Nat) Nat), p.registry "bank" = .ok r ∧
      p.Registered "bank" r ∧
      (∀ token ∈ ((savingsPlan "Outer.Savings").tokens "bank").map (·.2),
        r.lookup token = .error (.unknownField "Savings" token)) ∧
      r.lookup ⟨"Savings", "secret", "bank"⟩ =
        .error (.unknownField "Savings" ⟨"Savings", "secret", "bank"⟩) := by
  intro p
  have hdistinct : (p.fields.map (·.name)).Nodup := by decide
  obtain ⟨hlisted, r, hr, hregistered, hisolated⟩ := registry_isolated p hdistinct "bank" Nat
  refine ⟨hdistinct, hlisted, r, hr, hregistered, ?_, ?_⟩
  · intro token htoken
    exact (hisolated (savingsPlan "Outer.Savings") "bank" (.inl (by decide)) token htoken).1
  · exact (hregistered.refused _ (by decide)).1

end RecordLens
