import RecordLens.Proofs.Attributes
import RecordLens.Proofs.Outcome
/-!
Calls of constructors with one argument for each parameter. A generated constructor takes the fields
of its plan by name, and it gives a record that holds each argument in the field of its name, unless
a field has one of the names that its instructions use, or one that is private to the class.

* `bindByName_eq_self`: every parameter is bound to its argument.
* `Frame.run_stores`: what the instructions have stored on the way.
* `Plan.callConstructor_eq`: where names stand for themselves, a constructor means what it says.
* `Plan.construct_eq_self`: the record holds the arguments.
-/
namespace RecordLens

variable {V : Type}

/-! ## Names inside a class -/

theorem nameInside_ownNames (owner : String) :
    nameInside owner ownerName = ownerName ∧ nameInside owner recordName = recordName ∧
    nameInside owner rootName = rootName :=
  ⟨nameInside_of_not_isPrivate (by decide +kernel), nameInside_of_not_isPrivate (by decide +kernel),
    nameInside_of_not_isPrivate (by decide +kernel)⟩

/-- A private name is meant by no name: it begins with two underscores, and what private names stand for
    does not. -/
theorem nameInside_ne_of_ne {owner name : String} (h : nameInside owner name ≠ name)
    (other : String) : nameInside owner other ≠ name := by
  have hprivate : isPrivate name = true := by
    by_contra hnot
    exact h (nameInside_of_not_isPrivate (Bool.not_eq_true _ ▸ hnot))
  intro heq
  by_cases hother : (isPrivate other && !(owner.toList.dropWhile (· = '_')).isEmpty) = true
  · -- a name written out with its class has one underscore in front, and a private name has two
    have hlong : "_" ++ String.ofList (owner.toList.dropWhile (· = '_')) ++ other = name :=
      (if_pos hother).symm.trans heq
    rw [Bool.and_eq_true, Bool.not_eq_true', List.isEmpty_eq_false_iff] at hother
    obtain ⟨c, stem, hstem⟩ := List.exists_cons_of_ne_nil hother.2
    have hc : c ≠ '_' := by
      have hhead := List.head_dropWhile_not (· = '_') hother.2
      simpa [hstem] using hhead
    have hfirst : name.toList.take 2 = ['_', c] := by
      rw [← hlong, hstem]
      simp
    rw [isPrivate, hfirst] at hprivate
    simp [hc] at hprivate
  · have hsame : other = name := (if_neg hother).symm.trans heq
    rw [hsame] at hother
    exact h (if_neg hother)

theorem no_unexpected {parameters : List Parameter} {arguments : Attributes V}
    (hkinds : parameters.all (·.kind.byKeyword) = true)
    (hnames : ∀ e ∈ arguments, e.1 ∈ parameters.map (·.name)) :
    (arguments.any fun e => !parameters.any fun p => p.name = e.1 && p.kind.byKeyword) = false := by
  rw [List.any_eq_false]
  intro e he
  obtain ⟨p, hp, hpe⟩ := List.mem_map.1 (hnames e he)
  have hany : (parameters.any fun p => p.name = e.1 && p.kind.byKeyword) = true :=
    List.any_eq_true.2 ⟨p, hp, by simp [hpe, List.all_eq_true.1 hkinds p hp]⟩
  simp [hany]

/-- Arguments for all parameters, one for each and in their order, are bound as they are. -/
theorem bindByName_eq_self {parameters : List Parameter} {arguments : Attributes V}
    (hnames : arguments.names = parameters.map (·.name)) (hdistinct : arguments.names.Nodup)
    (hkinds : parameters.all (·.kind.byKeyword) = true) :
    bindByName parameters arguments = .ok arguments := by
  have hknown : (arguments.any fun e =>
      !parameters.any fun p => p.name = e.1 && p.kind.byKeyword) = false :=
    no_unexpected hkinds fun e he => hnames ▸ List.mem_map_of_mem he
  -- An argument is found by the name of its parameter alone.
  let byName : String → Except RunFault (String × V) := fun name =>
    argument arguments ⟨name, "", .keywordOnly⟩
  have hall : parameters.mapM (argument arguments) = .ok arguments := by
    calc parameters.mapM (argument arguments)
        = (parameters.map (·.name)).mapM byName := by rw [List.mapM_map]; rfl
      _ = (arguments.map (·.1)).mapM byName := by rw [← hnames]; rfl
      _ = arguments.mapM (byName ∘ (·.1)) := List.mapM_map
      _ = .ok (arguments.map id) := by
        refine mapM_eq_ok (fun e he => ?_)
        simp only [Function.comp_apply, byName, argument, Attributes.lookup_of_mem hdistinct he, id]
      _ = .ok arguments := by rw [List.map_id]
  have hdistinct' : (arguments.map (·.1)).Nodup := hdistinct
  rw [bindByName, if_neg (not_not.2 hdistinct'), hknown]
  exact hall

theorem parameter_of_bindByName {parameters : List Parameter} {arguments bound : Attributes V}
    (h : bindByName parameters arguments = .ok bound) {e : String × V} (he : e ∈ arguments) :
    e.1 ∈ parameters.map (·.name) := by
  rw [bindByName] at h
  split at h
  · exact absurd h error_ne_ok
  · split at h
    · exact absurd h error_ne_ok
    · rename_i hknown
      rw [Bool.not_eq_true, List.any_eq_false] at hknown
      have hany := hknown e he
      rw [Bool.not_eq_true, Bool.not_eq_false', List.any_eq_true] at hany
      obtain ⟨p, hp, hname⟩ := hany
      rw [Bool.and_eq_true, decide_eq_true_iff] at hname
      exact List.mem_map.2 ⟨p, hp, hname.1⟩

/-- A private name cannot be passed: no parameter is called so. -/
theorem meant_of_bindByName {owner : String} {parameters : List Parameter}
    {arguments bound : Attributes V}
    (h : bindByName (parameters.map (·.inside owner)) arguments = .ok bound) :
    ∀ name ∈ arguments.names, nameInside owner name = name := by
  intro name hname
  obtain ⟨e, he, rfl⟩ := List.mem_map.1 hname
  obtain ⟨_, hmem, hparameter⟩ := List.mem_map.1 (parameter_of_bindByName h he)
  obtain ⟨q, -, rfl⟩ := List.mem_map.1 hmem
  by_contra hne
  exact nameInside_ne_of_ne hne q.name hparameter

/-! ## Instructions -/

namespace Frame

theorem find?_eq_lookup {f : Frame V} {name : String} {m : Meaning V}
    (h : f.names.lookup name = some m) : f.find? name = some m := by
  rw [find?, h, Option.some_or]

theorem find?_root {f : Frame V} (h : rootName ∉ f.names.map (·.1)) :
    f.find? rootName = some .root := by
  have hnone : f.names.lookup rootName = none := by
    rw [List.lookup_eq_none_iff]
    intro e he
    rw [bne_iff_ne]
    exact fun hx => h (hx ▸ List.mem_map_of_mem he)
  rw [find?, hnone, if_pos rfl, Option.none_or]

/-- The instructions behind the first one: what is stored so far grows by the value of each name. The
    induction is on the values that are left. -/
theorem run_stores (names : List (String × Meaning V))
    (hroot : rootName ∉ names.map (·.1))
    (hrecord : names.lookup recordName = some .record) (left : Attributes V) :
    ∀ stored : Attributes V, (stored ++ left : Attributes V).names.Nodup →
    (∀ e ∈ left, names.lookup e.1 = some (.value e.2)) →
    run ⟨names, some stored⟩ (left.names.map (fun n => .store n n) ++ [.giveBack]) =
      .ok (stored ++ left) := by
  have hself : ∀ a, find? ⟨names, a⟩ recordName = some (Meaning.record : Meaning V) :=
    fun a => find?_eq_lookup hrecord
  have hobject : ∀ a, find? ⟨names, a⟩ rootName = some (Meaning.root : Meaning V) :=
    fun a => find?_root hroot
  induction left with
  | nil =>
    intro stored _ _
    simp [Attributes.names, run, hself]
  | cons e left ih =>
    intro stored hdistinct hvalues
    have hvalue : ∀ a, find? ⟨names, a⟩ e.1 = some (.value e.2) :=
      fun a => find?_eq_lookup (hvalues e List.mem_cons_self)
    have happ : stored ++ e :: left = (stored ++ [e]) ++ left := by simp
    have hnew : e.1 ∉ stored.names := by
      simp only [Attributes.names, List.map_append, List.map_cons, List.nodup_append,
        List.mem_cons] at hdistinct
      exact fun he => hdistinct.2.2 e.1 he e.1 (.inl rfl) rfl
    simp only [Attributes.names, List.map_cons, List.cons_append, run, hobject, hself, hvalue]
    rw [Attributes.store_of_not_mem e.2 hnew, happ]
    exact ih (stored ++ [e]) (happ ▸ hdistinct) (fun x hx => hvalues x (List.mem_cons_of_mem e hx))

end Frame

/-! ## Constructors of plans -/

theorem runBody_eq_ok {parameters : List Parameter} {body : List Instruction}
    {arguments made : Attributes V} :
    runBody parameters body arguments = .ok made ↔
      (ownerName :: parameters.map (·.name)).Nodup ∧
      ∃ bound, bindByName parameters arguments = .ok bound ∧
        Frame.run ⟨(ownerName, .owner) :: bound.map (fun e => (e.1, .value e.2)), none⟩ body =
          .ok made := by
  by_cases hparameters : (ownerName :: parameters.map (·.name)).Nodup
  · rw [runBody, if_neg (not_not.2 hparameters), and_iff_right hparameters]
    exact bind_eq_ok
  · rw [runBody, if_pos hparameters]
    exact iff_of_false error_ne_ok fun h => hparameters h.1

namespace Plan

/-- Names that the instructions of a constructor do not use themselves. -/
def FreeNames (names : List String) : Prop :=
  ownerName ∉ names ∧ recordName ∉ names ∧ rootName ∉ names

theorem signature_names (p : Plan) : p.signature.names = p.fields.map (·.name) := by
  rw [signature, canonicalSignature, Signature.names, List.map_map]
  rfl

theorem signature_byKeyword (p : Plan) :
    p.signature.parameters.all (·.kind.byKeyword) = true := by
  rw [List.all_eq_true]
  intro x hx
  obtain ⟨f, _, rfl⟩ := List.mem_map.1 hx
  rfl

theorem map_inside_eq_self {owner : String} {parameters : List Parameter}
    (h : ∀ name ∈ parameters.map (·.name), nameInside owner name = name) :
    parameters.map (·.inside owner) = parameters := by
  refine (List.map_congr_left fun q hq => ?_).trans (List.map_id _)
  rw [Parameter.inside, h q.name (List.mem_map_of_mem hq)]
  rfl

/-- Where names stand for themselves, the constructor is in its class what it is outside. -/
theorem callConstructor_eq {p : Plan}
    (h : ∀ name ∈ p.signature.names, nameInside p.declaration.name name = name)
    (arguments : Attributes V) :
    p.callConstructor arguments = runBody p.signature.parameters p.constructorBody arguments := by
  have hbody : p.constructorBody.map (·.inside p.declaration.name) = p.constructorBody := by
    refine (List.map_congr_left fun i hi => ?_).trans (List.map_id _)
    cases i with
    | create => rfl
    | giveBack => rfl
    | store field name =>
      have hname : name ∈ p.signature.names := by
        simp only [constructorBody, List.cons_append, List.mem_cons, List.mem_append, List.mem_map,
          reduceCtorEq, Instruction.store.injEq, List.not_mem_nil, or_false, false_or] at hi
        obtain ⟨_, hmem, -, rfl⟩ := hi
        exact hmem
      rw [Instruction.inside, h name hname]
      rfl
  rw [callConstructor, map_inside_eq_self h, hbody]

/-- A generated constructor gives a record that holds each argument under its name. -/
theorem runBody_eq_self (p : Plan) {arguments : Attributes V}
    (hnames : arguments.names = p.fields.map (·.name)) (hdistinct : arguments.names.Nodup)
    (hfree : FreeNames arguments.names) :
    runBody p.signature.parameters p.constructorBody arguments = .ok arguments := by
  have hsignature : p.signature.names = arguments.names := p.signature_names.trans hnames.symm
  have hparameters : (ownerName :: p.signature.names).Nodup := by
    rw [hsignature]
    exact List.nodup_cons.2 ⟨hfree.1, hdistinct⟩
  have hbind : bindByName p.signature.parameters arguments = .ok arguments :=
    bindByName_eq_self hsignature.symm hdistinct p.signature_byKeyword
  let names : List (String × Meaning V) :=
    (ownerName, .owner) :: arguments.map fun e => (e.1, .value e.2)
  have hfirst : (arguments.map fun e => (e.1, Meaning.value e.2)).map (·.1) = arguments.names := by
    rw [List.map_map]
    rfl
  have hroot : rootName ∉ names.map (·.1) := by
    simp only [names, List.map_cons, hfirst, List.mem_cons, not_or]
    exact ⟨by decide, hfree.2.2⟩
  have hrun : Frame.run ⟨names, none⟩ p.constructorBody = .ok arguments := by
    -- the new record is the latest name, and hides none of the parameters
    have hstores := Frame.run_stores ((recordName, .record) :: names)
      (by simpa [rootName, recordName] using hroot) List.lookup_cons_self arguments []
      (by simpa using hdistinct) ?_
    · rw [constructorBody, hsignature, List.cons_append, Frame.run, Frame.find?_root hroot,
        Frame.find?_eq_lookup List.lookup_cons_self]
      exact hstores
    · intro e he
      have howner : e.1 ≠ ownerName := fun h => hfree.1 (h ▸ List.mem_map_of_mem he)
      have hself : e.1 ≠ recordName := fun h => hfree.2.1 (h ▸ List.mem_map_of_mem he)
      rw [List.lookup_cons, beq_eq_false_iff_ne.2 hself, List.lookup_cons,
        beq_eq_false_iff_ne.2 howner]
      exact (Attributes.lookup_map_value Meaning.value arguments e.1).trans
        (congrArg _ (Attributes.lookup_of_mem hdistinct he))
  exact runBody_eq_ok.2 ⟨hparameters, arguments, hbind, hrun⟩

/-! ## Written constructors -/

/-- A written constructor that a plan calls serves as the one that takes every field. -/
def Consistent (p : Plan) : Prop :=
  ∀ written, p.reused = some written → written.servesAs p.signature = true

theorem consistent_of_plan? {d : Declaration} {p : Plan} (h : d.plan? = some p) :
    p.Consistent := by
  unfold Declaration.plan? at h
  split at h
  · obtain rfl := Option.some.inj h
    exact fun written hw => (List.find?_eq_some_iff_append.1 hw).1
  · exact absurd h (by simp)

/-- Whichever constructor setters call, its parameters are the fields. -/
theorem usableSignature_names {p : Plan} (h : p.Consistent) :
    p.usableSignature.names = p.fields.map (·.name) := by
  rw [usableSignature]
  cases hreused : p.reused with
  | none => exact p.signature_names
  | some written =>
    have hserves := h written hreused
    rw [Signature.servesAs, Bool.and_eq_true, Signature.sameAs, decide_eq_true_iff] at hserves
    have hnames : ∀ s : Signature, s.names = s.pairs.map (·.1) := fun s => by
      rw [Signature.names, Signature.pairs, List.map_map]
      rfl
    rw [Option.getD_some, hnames, hserves.1, ← hnames, p.signature_names]

theorem usableSignature_byKeyword {p : Plan} (h : p.Consistent) :
    p.usableSignature.parameters.all (·.kind.byKeyword) = true := by
  rw [usableSignature]
  cases hreused : p.reused with
  | none => exact p.signature_byKeyword
  | some written =>
    have hserves := h written hreused
    rw [Signature.servesAs, Bool.and_eq_true] at hserves
    exact hserves.2

end Plan
end RecordLens
