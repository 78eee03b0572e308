import RecordLens.Proofs.Construction
import RecordLens.Proofs.SecondRun
/-!
The names in generated constructors. A constructor takes its parameters by the names of the fields, and
fields are called what the class body calls them. So a field may bear the name of another one, a name
that the constructor uses itself, or one that is private to its class; a constructor does what it is
meant to do exactly where no field does.

* `bindByName_perm`: arguments that are given in any order.
* `Plan.StoresArguments`: each argument ends up in the field of its name.
* `Plan.storesArguments_of_plainNames`, `Plan.plainNames_of_storesArguments`: the two directions.
* `storesArguments_iff_plainNames`: the constructors in the expansions of texts.
-/
namespace RecordLens

variable {V : Type}

/-! ## Arguments in any order -/

theorem argument_eq_ok {arguments : Attributes V} {p : Parameter} {e : String × V} :
    argument arguments p = .ok e ↔ e.1 = p.name ∧ arguments.lookup e.1 = some e.2 := by
  rw [argument]
  constructor
  · intro h
    split at h
    · rename_i v hv
      obtain rfl := Except.ok.inj h
      exact ⟨rfl, hv⟩
    · exact absurd h error_ne_ok
  · rintro ⟨hname, hv⟩
    rw [← hname, hv]

/-- Arguments for all parameters, one for each and in any order, are bound in the order of the
    parameters. -/
theorem bindByName_perm {parameters : List Parameter} {arguments : Attributes V}
    (hnames : arguments.names.Perm (parameters.map (·.name)))
    (hdistinct : (parameters.map (·.name)).Nodup)
    (hkinds : parameters.all (·.kind.byKeyword) = true) :
    ∃ bound : Attributes V, bindByName parameters arguments = .ok bound ∧
      bound.names = parameters.map (·.name) ∧ ∀ e ∈ bound, arguments.lookup e.1 = some e.2 := by
  have hgiven : (arguments.map (·.1)).Nodup := hnames.nodup_iff.2 hdistinct
  have hknown : (arguments.any fun e =>
      !parameters.any fun p => p.name = e.1 && p.kind.byKeyword) = false :=
    no_unexpected hkinds fun e he => hnames.subset (List.mem_map_of_mem he)
  obtain ⟨bound, hbound⟩ : ∃ bound, parameters.mapM (argument arguments) = .ok bound := by
    refine exists_mapM_eq_ok fun p hp => ?_
    obtain ⟨v, hv⟩ := Attributes.lookup_of_mem_names (hnames.symm.subset (List.mem_map_of_mem hp))
    exact ⟨(p.name, v), argument_eq_ok.2 ⟨rfl, hv⟩⟩
  have hall := mapM_eq_ok_iff.1 hbound
  refine ⟨bound, ?_, ?_, ?_⟩
  · rw [bindByName, if_neg (not_not.2 hgiven), hknown]
    exact hbound
  · rw [Attributes.names, ← List.forall₂_eq_eq_eq, List.forall₂_map_left_iff,
      List.forall₂_map_right_iff]
    exact hall.flip.imp fun e p h => (argument_eq_ok.1 h).1
  · intro e he
    obtain ⟨p, -, hp⟩ := exists_of_mem_mapM hbound he
    exact (argument_eq_ok.1 hp).2

/-! ## What a constructor that succeeds has gone through -/

namespace Frame

theorem value_of_run_store {f : Frame V} {field name : String} {rest : List Instruction}
    {made : Attributes V} (h : run f (.store field name :: rest) = .ok made) :
    ∃ v a, f.find? name = some (.value v) ∧ run ⟨f.names, some a⟩ rest = .ok made := by
  rw [run] at h
  split at h
  · rename_i a v _ _ _ hv
    exact ⟨v, _, hv, h⟩
  all_goals exact absurd h error_ne_ok

/-- Whatever is stored is no record on its way: the induction is on the fields that are left. -/
theorem not_mem_of_run_stores {names : List (String × Meaning V)}
    (hrecord : names.lookup recordName = some .record) {made : Attributes V} (fields : List String) :
    ∀ stored, run ⟨names, stored⟩ (fields.map (fun n => .store n n) ++ [.giveBack]) = .ok made →
      recordName ∉ fields := by
  induction fields with
  | nil => exact fun _ _ => List.not_mem_nil
  | cons name fields ih =>
    intro stored h
    obtain ⟨v, a, hv, hrest⟩ := value_of_run_store h
    rw [List.mem_cons, not_or]
    refine ⟨?_, ih _ hrest⟩
    rintro rfl
    rw [find?_eq_lookup hrecord] at hv
    exact nomatch hv

theorem root_of_run_create {f : Frame V} {rest : List Instruction} {made : Attributes V}
    (h : run f (.create :: rest) = .ok made) :
    f.find? rootName = some .root ∧ run ⟨(recordName, .record) :: f.names, some []⟩ rest = .ok made := by
  rw [run] at h
  split at h
  · rename_i hroot _
    exact ⟨hroot, h⟩
  all_goals exact absurd h error_ne_ok

end Frame

/-! ## Constructors -/

namespace Plan

/-- Names that can be those of fields: they are different, the instructions of a constructor do not
    use them, and they stand for themselves in their class. -/
structure PlainNames (owner : String) (names : List String) : Prop where
  distinct : names.Nodup
  free : FreeNames names
  meant : ∀ name ∈ names, nameInside owner name = name

/-- For all arguments, in any order, the constructor stores in the field of each name the argument that
    is passed under it. -/
def StoresArguments (p : Plan) : Prop :=
  ∀ (V : Type) (arguments : Attributes V), arguments.names.Perm p.signature.names →
    ∃ made, p.callConstructor arguments = .ok made ∧ made.names = p.signature.names ∧
      ∀ name ∈ p.signature.names, made.lookup name = arguments.lookup name

/-- With plain names every argument gets to its field. -/
theorem storesArguments_of_plainNames {p : Plan}
    (h : PlainNames p.declaration.name p.signature.names) : p.StoresArguments := by
  intro V arguments hgiven
  obtain ⟨bound, hbound, hnames, hlookup⟩ :=
    bindByName_perm hgiven h.distinct p.signature_byKeyword
  have hfields : bound.names = p.fields.map (·.name) := hnames.trans p.signature_names
  have hdistinct : bound.names.Nodup := hnames ▸ h.distinct
  -- Binding is all that the order of the arguments matters for.
  have hsame : runBody p.signature.parameters p.constructorBody arguments =
      runBody p.signature.parameters p.constructorBody bound := by
    have hself : bindByName p.signature.parameters bound = .ok bound :=
      bindByName_eq_self hnames hdistinct p.signature_byKeyword
    rw [runBody, runBody, hbound, hself]
  refine ⟨bound, ?_, hnames, fun name hname => ?_⟩
  · rw [callConstructor_eq h.meant, hsame]
    exact p.runBody_eq_self hfields hdistinct (hnames ▸ h.free)
  · have hmem : name ∈ bound.names := hnames.symm ▸ hname
    obtain ⟨e, he, rfl⟩ := List.mem_map.1 hmem
    rw [Attributes.lookup_of_mem hdistinct he, hlookup e he]

/-- A constructor that stores what it is given has plain names only: it is enough to call it once with
    all arguments that it takes. -/
theorem plainNames_of_storesArguments {p : Plan} (h : p.StoresArguments) :
    PlainNames p.declaration.name p.signature.names := by
  let arguments : Attributes Unit := p.signature.names.map fun name => (name, ())
  have hnames : arguments.names = p.signature.names := by
    rw [Attributes.names, List.map_map]
    exact List.map_id _
  obtain ⟨made, hmade, -, -⟩ := h Unit arguments (hnames ▸ .refl _)
  have hinside : (p.signature.parameters.map (·.inside p.declaration.name)).map (·.name) =
      p.signature.names.map (nameInside p.declaration.name) := by
    rw [Signature.names, List.map_map, List.map_map]
    rfl
  obtain ⟨hparameters, bound, hbind, -⟩ := runBody_eq_ok.1 hmade
  rw [hinside, List.nodup_cons] at hparameters
  have hdistinct : p.signature.names.Nodup := hparameters.2.of_map
  have howner : ownerName ∉ p.signature.names := fun hmem =>
    hparameters.1 (List.mem_map.2 ⟨ownerName, hmem, (nameInside_ownNames _).1⟩)
  have hmeant : ∀ name ∈ p.signature.names, nameInside p.declaration.name name = name :=
    hnames ▸ meant_of_bindByName hbind
  -- So the constructor is called as it is written.
  rw [callConstructor_eq hmeant] at hmade
  obtain ⟨-, bound, hbind, hrun⟩ := runBody_eq_ok.1 hmade
  have hself : bindByName p.signature.parameters arguments = .ok arguments :=
    bindByName_eq_self hnames (hnames ▸ hdistinct) p.signature_byKeyword
  obtain rfl := Except.ok.inj (hself.symm.trans hbind)
  obtain ⟨hroot, hstores⟩ := Frame.root_of_run_create hrun
  refine ⟨hdistinct, ⟨howner, ?_, fun hmem => ?_⟩, hmeant⟩
  · exact Frame.not_mem_of_run_stores List.lookup_cons_self p.signature.names _ hstores
  · obtain ⟨e, he, hname⟩ := List.mem_map.1 (hnames ▸ hmem : rootName ∈ arguments.names)
    have hlookup : ((ownerName, Meaning.owner) ::
        arguments.map fun e => (e.1, Meaning.value e.2)).lookup rootName = some (.value e.2) := by
      rw [List.lookup_cons, beq_eq_false_iff_ne.2 (by decide), Attributes.lookup_map_value, ← hname,
        Attributes.lookup_of_mem (hnames ▸ hdistinct) he]
      rfl
    rw [Frame.find?_eq_lookup hlookup] at hroot
    cases hroot

end Plan

/-- The names of the fields that a declaration comes to. -/
def Declaration.fieldNames (d : Declaration) : List String := d.fields.map (·.name)

/-- **A generated constructor captures no name exactly where its class gives the fields plain names.**
    Its parameters are called as the class body calls the fields. They are different from each other
    and from the names that the constructor uses, and each argument, whatever the order in which they
    are passed, ends up in the field of its name, if and only if no two fields have one name, none has
    a name that the constructor uses, and none has a name that is private to the class. -/
theorem storesArguments_iff_plainNames {filename text : String} {e : Expansion}
    (hexpand : expand filename text = .ok e) : ∀ p ∈ e.plans,
      (∃ ds, Declaration.parseAll filename text = .ok ds ∧ p.declaration ∈ ds ∧
        p.signature.names = p.declaration.fieldNames) ∧
      ((p.signature.names.Nodup ∧ Plan.FreeNames p.signature.names ∧ p.StoresArguments) ↔
        Plan.PlainNames p.declaration.name p.declaration.fieldNames) := by
  intro p hp
  obtain ⟨ds, hparse, hdeclared, hplan⟩ := plan?_of_expand hexpand hp
  have hnames : p.signature.names = p.declaration.fieldNames := by
    have hfields : p.fields = p.declaration.fields := congrArg Plan.fields (plan?_eq_some hplan)
    rw [p.signature_names, hfields, Declaration.fieldNames]
  refine ⟨⟨ds, hparse, hdeclared, hnames⟩, ?_⟩
  rw [← hnames]
  constructor
  · rintro ⟨-, -, hstores⟩
    exact Plan.plainNames_of_storesArguments hstores
  · exact fun h => ⟨h.distinct, h.free, Plan.storesArguments_of_plainNames h⟩

/-- Two records, the second with a field that is declared twice. -/
def twiceText : String :=
  "@autolens\n@dataclass(frozen=True)\nclass P:\n    x: int\n    y: str\n\n" ++
  "@autolens\n@dataclass(frozen=True)\nclass Q:\n    x: int\n    x: int\n"

theorem storesArguments_iff_plainNames_twice :
    ∃ e p q, expand sourceName twiceText = .ok e ∧ e.plans = [p, q] ∧
      p.emitsConstructor = true ∧ q.emitsConstructor = true ∧
      p.signature.names = ["x", "y"] ∧ q.signature.names = ["x", "x"] ∧
      ((p.signature.names.Nodup ∧ Plan.FreeNames p.signature.names ∧ p.StoresArguments) ↔
        Plan.PlainNames p.declaration.name p.declaration.fieldNames) ∧
      p.StoresArguments ∧ ¬q.StoresArguments := by
  have hrun : (expand sourceName twiceText).toOption.map (fun e =>
      e.plans.map fun p => (p.emitsConstructor, p.declaration.name, p.signature.names)) =
      some [(true, "P", ["x", "y"]), (true, "Q", ["x", "x"])] := by decide +kernel
  cases hexpand : expand sourceName twiceText with
  | error fault =>
    rw [hexpand] at hrun
    exact nomatch hrun
  | ok e =>
    rw [hexpand] at hrun
    obtain ⟨p, q, hplans, hp, hq⟩ : ∃ p q, e.plans = [p, q] ∧
        (p.emitsConstructor, p.declaration.name, p.signature.names) = (true, "P", ["x", "y"]) ∧
        (q.emitsConstructor, q.declaration.name, q.signature.names) = (true, "Q", ["x", "x"]) := by
      obtain ⟨p, rest, hplans, hp, hrest⟩ := List.map_eq_cons_iff.1 (Option.some.inj hrun)
      obtain ⟨q, none, rfl, hq, hnone⟩ := List.map_eq_cons_iff.1 hrest
      obtain rfl := List.map_eq_nil_iff.1 hnone
      exact ⟨p, q, hplans, hp, hq⟩
    simp only [Prod.mk.injEq] at hp hq
    obtain ⟨⟨_, -, -, hpnames⟩, hpiff⟩ :=
      storesArguments_iff_plainNames hexpand p (by simp [hplans])
    have hplain : Plan.PlainNames p.declaration.name p.declaration.fieldNames := by
      rw [← hpnames, hp.2.2, hp.2.1]
      refine ⟨by decide, ⟨by decide, by decide, by decide⟩, ?_⟩
      decide +kernel
    refine ⟨e, p, q, rfl, hplans, hp.1, hq.1, hp.2.2, hq.2.2, hpiff, (hpiff.2 hplain).2.2, ?_⟩
    intro hstores
    have hdistinct := (Plan.plainNames_of_storesArguments hstores).distinct
    rw [hq.2.2] at hdistinct
    exact absurd hdistinct (by decide)

end RecordLens
