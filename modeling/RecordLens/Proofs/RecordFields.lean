import RecordLens.Optic.Record
import RecordLens.Proofs.Attributes
import RecordLens.Proofs.Outcome
/-!
Fields of records that constructors make. The constructor of a type gives each settable slot its
argument or its default and every other slot its default, so the fields of a record are a function of
the arguments alone; a record that is built again with one argument changed differs in that field only.

* `RecordType.fieldsFrom_eq_ok`: what a constructor makes of its arguments.
* `RecordType.Makes`: fields that a constructor makes, and `Makes.alter`: one of them changed.
* `Schema.replaced_eq`: a record with one field replaced.
-/
namespace RecordLens

theorem fieldValue?_eq_lookup (name : String) (fields : List (String × Value)) :
    fieldValue? name fields = fields.lookup name := by
  induction fields with
  | nil => rfl
  | cons e fields ih =>
    rw [fieldValue?, List.lookup_cons]
    by_cases h : e.1 = name
    · rw [if_pos h, h, beq_self_eq_true]
    · rw [if_neg h, beq_eq_false_iff_ne.2 (Ne.symm h), ih]

/-! ## What constructors make -/

namespace RecordType

/-- No two slots of a type have one name. -/
def Distinct (t : RecordType) : Prop := (t.slots.map (·.name)).Nodup

instance (t : RecordType) : Decidable t.Distinct := inferInstanceAs (Decidable (List.Nodup _))

/-- The value of a slot, given the arguments by name. -/
def slotValue (named : List (String × Value)) (s : Slot) : Option Value :=
  if s.settable then (named.lookup s.name).or s.default else s.default

/-- The field of a slot that has a value. -/
def slotField (named : List (String × Value)) (s : Slot) : Option (String × Value) :=
  (slotValue named s).map (s.name, ·)

theorem slotField_eq_some {named : List (String × Value)} {s : Slot} {v : Value}
    (h : slotValue named s = some v) : slotField named s = some (s.name, v) := by
  rw [slotField, h]
  rfl

theorem slotField_eq_none {named : List (String × Value)} {s : Slot}
    (h : slotValue named s = none) : slotField named s = none := by
  rw [slotField, h]
  rfl

/-- A constructor succeeds if each slot that it takes has a value, and it makes a field for every slot
    that has one. -/
theorem fieldsFrom_eq_ok {named : List (String × Value)} {slots : List Slot}
    {fields : List (String × Value)} : fieldsFrom named slots = .ok fields ↔
      (∀ s ∈ slots, s.settable = true → (slotValue named s).isSome) ∧
      fields = slots.filterMap (slotField named) := by
  induction slots generalizing fields with
  | nil => exact ⟨fun h => ⟨nofun, (Except.ok.inj h).symm⟩, fun h => h.2 ▸ rfl⟩
  | cons s slots ih =>
    have hvalue : (if s.settable = true then (fieldValue? s.name named).or s.default
        else s.default) = slotValue named s := by rw [fieldValue?_eq_lookup, slotValue]
    rw [fieldsFrom, hvalue, List.forall_mem_cons]
    cases hslot : slotValue named s with
    | some v =>
      rw [List.filterMap_cons_some (slotField_eq_some hslot), bind_eq_ok]
      constructor
      · rintro ⟨rest, hrest, hcons⟩
        obtain ⟨hall, rfl⟩ := ih.1 hrest
        exact ⟨⟨fun _ => rfl, hall⟩, (Except.ok.inj hcons).symm⟩
      · rintro ⟨⟨-, hall⟩, rfl⟩
        exact ⟨_, ih.2 ⟨hall, rfl⟩, rfl⟩
    | none =>
      rw [List.filterMap_cons_none (slotField_eq_none hslot)]
      cases hset : s.settable with
      | true => exact iff_of_false nofun fun h => absurd (h.1.1 rfl) nofun
      | false => exact ih.trans (and_congr_left' ⟨fun h => ⟨nofun, h⟩, (·.2)⟩)

theorem lookup_filterMap_slotField {named : List (String × Value)} {slots : List Slot}
    (hdistinct : (slots.map (·.name)).Nodup) {s : Slot} (hs : s ∈ slots) :
    (slots.filterMap (slotField named)).lookup s.name = slotValue named s := by
  induction slots with
  | nil => exact absurd hs List.not_mem_nil
  | cons x slots ih =>
    rw [List.map_cons, List.nodup_cons] at hdistinct
    rcases List.mem_cons.1 hs with rfl | hs
    · cases hslot : slotValue named s with
      | some v =>
        rw [List.filterMap_cons_some (slotField_eq_some hslot), List.lookup_cons_self]
      | none =>
        rw [List.filterMap_cons_none (slotField_eq_none hslot), List.lookup_eq_none_iff]
        intro e he
        obtain ⟨y, hy, hye⟩ := List.mem_filterMap.1 he
        obtain ⟨v, -, rfl⟩ := Option.map_eq_some_iff.1 hye
        rw [bne_iff_ne]
        exact fun hname => hdistinct.1 (List.mem_map.2 ⟨y, hy, hname.symm⟩)
    · have hne : s.name ≠ x.name := fun hname =>
        hdistinct.1 (List.mem_map.2 ⟨s, hs, hname⟩)
      cases hslot : slotValue named x with
      | some v =>
        rw [List.filterMap_cons_some (slotField_eq_some hslot), List.lookup_cons,
          beq_eq_false_iff_ne.2 hne]
        exact ih hdistinct.2 hs
      | none =>
        rw [List.filterMap_cons_none (slotField_eq_none hslot)]
        exact ih hdistinct.2 hs

/-- **A constructor makes a record with one field changed** of arguments that differ in that field from
    what the record holds. The field has to be one that the constructor takes. -/
theorem fieldsFrom_changed {named arguments : List (String × Value)} {slots : List Slot}
    {fields : List (String × Value)} {name : String} {f : Value → Value}
    (hname : ∀ s ∈ slots, s.name = name → s.settable = true)
    (harguments : ∀ s ∈ slots, s.settable = true → arguments.lookup s.name =
      (slotValue named s).map fun v => if s.name = name then f v else v)
    (h : fieldsFrom named slots = .ok fields) :
    fieldsFrom arguments slots =
      .ok (fields.map fun e => if e.1 = name then (e.1, f e.2) else e) := by
  obtain ⟨hall, rfl⟩ := fieldsFrom_eq_ok.1 h
  -- the value of every slot changes as its field does
  have hvalue : ∀ s ∈ slots, slotValue arguments s =
      (slotValue named s).map fun v => if s.name = name then f v else v := by
    intro s hs
    cases hset : s.settable with
    | true =>
      obtain ⟨v, hv⟩ := Option.isSome_iff_exists.1 (hall s hs hset)
      have hlookup := harguments s hs hset
      rw [hv] at hlookup ⊢
      rw [slotValue, if_pos hset, hlookup]
      rfl
    | false =>
      have hne : s.name ≠ name := fun hsame =>
        Bool.false_ne_true (hset.symm.trans (hname s hs hsame))
      have hboth : ∀ given, slotValue given s = s.default := fun given => by
        rw [slotValue, hset, if_neg Bool.false_ne_true]
      rw [hboth, hboth]
      simp only [if_neg hne, Option.map_id']
  refine fieldsFrom_eq_ok.2 ⟨fun s hs hset => ?_, ?_⟩
  · rw [hvalue s hs, Option.isSome_map]
    exact hall s hs hset
  · rw [List.map_filterMap]
    refine List.filterMap_congr fun s hs => ?_
    rw [slotField, slotField, hvalue s hs, Option.map_map, Option.map_map]
    cases slotValue named s with
    | none => rfl
    | some v => by_cases hsame : s.name = name <;> simp [hsame]

end RecordType

/-! ## Values with a field changed -/

namespace Value

/-- A record with the value of one of its fields changed. -/
def alter (name : String) (f : Value → Value) : Value → Value
  | .record type fields =>
    .record type (fields.map fun e => if e.1 = name then (e.1, f e.2) else e)
  | v => v

theorem read_record (type : String) (fields : List (String × Value)) {name : String} {v : Value} :
    (Value.record type fields).read name = .ok v ↔ fields.lookup name = some v := by
  rw [Value.read, fieldValue?_eq_lookup]
  cases fields.lookup name with
  | none => exact iff_of_false nofun nofun
  | some u => exact ⟨fun h => congrArg some (Except.ok.inj h), fun h => by rw [Option.some.inj h]⟩

theorem lookup_alter {name other : String} (f : Value → Value) (fields : List (String × Value)) :
    (fields.map fun e => if e.1 = name then (e.1, f e.2) else e).lookup other =
      (fields.lookup other).map fun v => if other = name then f v else v := by
  induction fields with
  | nil => rfl
  | cons e fields ih =>
    have hfirst : (if e.1 = name then (e.1, f e.2) else e) =
        (e.1, if e.1 = name then f e.2 else e.2) := by split <;> rfl
    rw [List.map_cons, hfirst, List.lookup_cons, List.lookup_cons, ih]
    by_cases h : other = e.1
    · rw [h, beq_self_eq_true]
      rfl
    · rw [beq_eq_false_iff_ne.2 h]

theorem read_alter_ne {name other : String} (h : other ≠ name) (f : Value → Value) (w : Value) :
    (w.alter name f).read other = w.read other := by
  cases w with
  | record type fields =>
    rw [alter, Value.read, Value.read, fieldValue?_eq_lookup, fieldValue?_eq_lookup, lookup_alter]
    simp only [if_neg h, Option.map_id']
  | _ => rfl

theorem read_alter {type : String} {fields : List (String × Value)} {name : String} {v : Value}
    (f : Value → Value) (h : (Value.record type fields).read name = .ok v) :
    ((Value.record type fields).alter name f).read name = .ok (f v) := by
  rw [alter, read_record, lookup_alter, (read_record type fields).1 h]
  simp

theorem alter_alter (name : String) (f g : Value → Value) (w : Value) :
    (w.alter name g).alter name f = w.alter name fun v => f (g v) := by
  cases w with
  | record type fields =>
    rw [alter, alter, alter, List.map_map]
    refine congrArg _ (List.map_congr_left fun e _ => ?_)
    by_cases h : e.1 = name <;> simp [h]
  | _ => rfl

theorem alter_comm {name other : String} (h : name ≠ other) (f g : Value → Value) (w : Value) :
    (w.alter name f).alter other g = (w.alter other g).alter name f := by
  cases w with
  | record type fields =>
    simp only [alter, List.map_map]
    refine congrArg _ (List.map_congr_left fun e _ => ?_)
    by_cases hname : e.1 = name
    · have hother : e.1 ≠ other := fun hsame => h (hname.symm.trans hsame)
      simp [hname, h]
    · by_cases hother : e.1 = other <;> simp [hname, hother, Ne.symm h]
  | _ => rfl

theorem alter_congr {type : String} {fields : List (String × Value)} {name : String} {v : Value}
    {f g : Value → Value} (hdistinct : (fields.map (·.1)).Nodup)
    (hread : (Value.record type fields).read name = .ok v) (h : f v = g v) :
    (Value.record type fields).alter name f = (Value.record type fields).alter name g := by
  refine congrArg _ (List.map_congr_left fun e he => ?_)
  by_cases hname : e.1 = name
  · have hlookup : some e.2 = some v :=
      (Attributes.lookup_of_mem hdistinct he).symm.trans
        (hname ▸ (read_record type fields).1 hread)
    rw [if_pos hname, if_pos hname, Option.some.inj hlookup, h]
  · rw [if_neg hname, if_neg hname]

theorem alter_eq_self {type : String} {fields : List (String × Value)} {name : String} {v : Value}
    {f : Value → Value} (hdistinct : (fields.map (·.1)).Nodup)
    (hread : (Value.record type fields).read name = .ok v) (h : f v = v) :
    (Value.record type fields).alter name f = .record type fields := by
  rw [alter_congr hdistinct hread (g := id) h, alter]
  simp

end Value

/-! ## Records of a schema -/

namespace RecordType
variable {t : RecordType} {named fields : List (String × Value)} {name : String}

theorem Distinct.settable (h : t.Distinct) (hname : name ∈ t.parameters.map (·.name)) :
    ∀ s ∈ t.slots, s.name = name → s.settable = true := by
  intro s hs hsame
  obtain ⟨s', hs', hname'⟩ := List.mem_map.1 hname
  obtain ⟨hmem, hset⟩ := List.mem_filter.1 hs'
  rwa [List.inj_on_of_nodup_map h hs hmem (hsame.trans hname'.symm)]

theorem names_filterMap_slotField (named : List (String × Value)) (slots : List Slot) :
    ((slots.filterMap (slotField named)).map (·.1)).Sublist (slots.map (·.name)) := by
  induction slots with
  | nil => exact List.Sublist.refl []
  | cons s slots ih =>
    cases hslot : slotValue named s with
    | some v =>
      rw [List.filterMap_cons_some (slotField_eq_some hslot)]
      exact ih.cons_cons s.name
    | none =>
      rw [List.filterMap_cons_none (slotField_eq_none hslot)]
      exact ih.cons s.name

theorem Distinct.field_names (h : t.Distinct) (hfields : fieldsFrom named t.slots = .ok fields) :
    (fields.map (·.1)).Nodup := by
  obtain ⟨-, rfl⟩ := fieldsFrom_eq_ok.1 hfields
  exact (names_filterMap_slotField named t.slots).nodup h

theorem Distinct.lookup (h : t.Distinct) (hfields : fieldsFrom named t.slots = .ok fields)
    {s : Slot} (hs : s ∈ t.slots) : fields.lookup s.name = slotValue named s := by
  obtain ⟨-, rfl⟩ := fieldsFrom_eq_ok.1 hfields
  exact lookup_filterMap_slotField h hs

end RecordType

namespace Schema
variable {schema : Schema} {t : RecordType} {w : Value} {name : String}

/-- A record of a type of the schema, with the fields that the constructor of its type makes of some
    arguments. -/
def Makes (schema : Schema) (t : RecordType) (w : Value) : Prop :=
  schema.find? t.name = some t ∧ t.Distinct ∧
  ∃ named fields, RecordType.fieldsFrom named t.slots = .ok fields ∧ w = .record t.name fields

/-- A record whose field `name` can be replaced, since the constructor takes that field. -/
def CanReplace (schema : Schema) (name : String) (w : Value) : Prop :=
  ∃ t, schema.Makes t w ∧ name ∈ t.parameters.map (·.name)

theorem Makes.read (h : schema.Makes t w) {s : Slot} (hs : s ∈ t.slots) (hset : s.settable = true) :
    ∃ v, w.read s.name = .ok v := by
  obtain ⟨-, hdistinct, named, fields, hfields, rfl⟩ := h
  obtain ⟨v, hv⟩ := Option.isSome_iff_exists.1 ((RecordType.fieldsFrom_eq_ok.1 hfields).1 s hs hset)
  exact ⟨v, (Value.read_record _ _).2 ((hdistinct.lookup hfields hs).trans hv)⟩

theorem CanReplace.read (h : schema.CanReplace name w) : ∃ v, w.read name = .ok v := by
  obtain ⟨t, hmakes, hname⟩ := h
  obtain ⟨s, hs, rfl⟩ := List.mem_map.1 hname
  obtain ⟨hmem, hset⟩ := List.mem_filter.1 hs
  exact hmakes.read hmem hset

/-- A record stays one that its constructor makes when a field is changed that the constructor takes:
    its fields, given back to the constructor, make it again. -/
theorem Makes.alter (h : schema.Makes t w) (hname : name ∈ t.parameters.map (·.name))
    (f : Value → Value) : schema.Makes t (w.alter name f) := by
  obtain ⟨hfind, hdistinct, named, fields, hfields, rfl⟩ := h
  have hagain : ∀ s ∈ t.slots, s.settable = true →
      (fields.map fun e => if e.1 = name then (e.1, f e.2) else e).lookup s.name =
        (RecordType.slotValue named s).map fun v => if s.name = name then f v else v := by
    intro s hs _
    rw [Value.lookup_alter, hdistinct.lookup hfields hs]
  exact ⟨hfind, hdistinct, _, _,
    RecordType.fieldsFrom_changed (hdistinct.settable hname) hagain hfields, rfl⟩

/-- What a constructor is given for a record with one field replaced, besides the new value: what is read
    from the others. -/
theorem changedArguments_eq {name : String} {x : Value} {slots : List Slot} (value : String → Value)
    (hread : ∀ s ∈ slots, s.settable = true → w.read s.name = .ok (value s.name))
    (hname : ∀ s ∈ slots, s.name = name → s.settable = true) :
    changedArguments w [(name, x)] slots =
      .ok ((slots.filter fun s => s.settable && decide (s.name ≠ name)).map
        fun s => (s.name, value s.name)) := by
  induction slots with
  | nil => rfl
  | cons s slots ih =>
    have hrest := ih (fun s' hs' => hread s' (List.mem_cons_of_mem s hs'))
      (fun s' hs' => hname s' (List.mem_cons_of_mem s hs'))
    have hchange : fieldValue? s.name [(name, x)] = if name = s.name then some x else none := rfl
    rw [changedArguments, hchange]
    by_cases hsame : name = s.name
    · have hset : s.settable = true := hname s List.mem_cons_self hsame.symm
      rw [if_pos hsame, hset, hrest]
      simp [hsame]
    · rw [if_neg hsame]
      cases hset : s.settable with
      | false =>
        rw [hrest]
        simp [hset]
      | true =>
        rw [hread s List.mem_cons_self hset, hrest]
        simp [hset, Ne.symm hsame]
        rfl

theorem lookup_kept (value : String → Value) {slots : List Slot} {s : Slot} (hs : s ∈ slots) :
    (slots.map fun s => (s.name, value s.name)).lookup s.name = some (value s.name) := by
  induction slots with
  | nil => exact absurd hs List.not_mem_nil
  | cons x slots ih =>
    rw [List.map_cons, List.lookup_cons]
    by_cases h : s.name = x.name
    · rw [h, beq_self_eq_true]
    · rw [beq_eq_false_iff_ne.2 h]
      exact ih ((List.mem_cons.1 hs).resolve_left fun hsame => h (hsame ▸ rfl))

/-- A constructor that is given arguments by name only, for parameters that it has. -/
theorem construct_byName (t : RecordType) {arguments : List (String × Value)}
    (h : ∀ e ∈ arguments, e.1 ∈ t.parameters.map (·.name)) :
    t.construct [] arguments =
      (RecordType.fieldsFrom arguments t.slots).map (Value.record t.name) := by
  have hknown : (arguments.any fun e => !(t.parameters.map (·.name)).contains e.1) = false := by
    rw [List.any_eq_false]
    intro e he
    simpa using h e he
  have hplaced : (arguments.any fun e =>
      (([] : List (String × Value)).map (·.1)).contains e.1) = false :=
    List.any_eq_false.2 fun _ _ => Bool.false_ne_true
  rw [RecordType.construct]
  simp only [List.zip_nil_right, hknown, hplaced, List.length_nil, Nat.not_lt_zero,
    Bool.false_eq_true, if_false, List.nil_append]
  cases RecordType.fieldsFrom arguments t.slots <;> rfl

/-- **Replacing a field** of a record that its constructor makes changes that field and nothing else. -/
theorem replaced_eq (h : schema.CanReplace name w) (x : Value) :
    schema.replaced w [(name, x)] = .ok (w.alter name fun _ => x) := by
  obtain ⟨t, hmakes, hname⟩ := h
  have hsettable := hmakes.2.1.settable hname
  have hreads : ∀ s ∈ t.slots, s.settable = true → ∃ v, w.read s.name = .ok v :=
    fun s hs hset => hmakes.read hs hset
  obtain ⟨hfind, hdistinct, named, fields, hfields, rfl⟩ := hmakes
  -- the values that are kept, by the names of their fields
  let value : String → Value := fun n => (fields.lookup n).getD .none
  have hvalue : ∀ s ∈ t.slots, s.settable = true →
      (Value.record t.name fields).read s.name = .ok (value s.name) := by
    intro s hs hset
    obtain ⟨v, hv⟩ := hreads s hs hset
    have hlookup : fields.lookup s.name = some v := (Value.read_record _ _).1 hv
    rw [hv]
    simp only [value, hlookup, Option.getD_some]
  have hkept := changedArguments_eq (x := x) value hvalue hsettable
  have hparameters : ∀ e ∈ [(name, x)] ++ ((t.slots.filter fun s =>
      s.settable && decide (s.name ≠ name)).map fun s => (s.name, value s.name)),
      e.1 ∈ t.parameters.map (·.name) := by
    intro e he
    rcases List.mem_append.1 he with he | he
    · rwa [List.mem_singleton.1 he]
    · obtain ⟨s, hs, rfl⟩ := List.mem_map.1 he
      obtain ⟨hmem, hset⟩ := List.mem_filter.1 hs
      exact List.mem_map_of_mem (List.mem_filter.2 ⟨hmem, (Bool.and_eq_true_iff.1 hset).1⟩)
  have harguments : ∀ s ∈ t.slots, s.settable = true → ([(name, x)] ++ ((t.slots.filter fun s =>
      s.settable && decide (s.name ≠ name)).map fun s => (s.name, value s.name))).lookup s.name =
        (RecordType.slotValue named s).map fun v => if s.name = name then x else v := by
    intro s hs hset
    have hslot : RecordType.slotValue named s = some (value s.name) :=
      (hdistinct.lookup hfields hs).symm.trans ((Value.read_record _ _).1 (hvalue s hs hset))
    rw [hslot, List.singleton_append, List.lookup_cons, Option.map_some]
    by_cases hsame : s.name = name
    · rw [if_pos hsame, hsame, beq_self_eq_true]
    · rw [if_neg hsame, beq_eq_false_iff_ne.2 hsame]
      exact lookup_kept value (List.mem_filter.2 ⟨hs, by rw [hset, decide_eq_true hsame]; rfl⟩)
  rw [replaced]
  simp only [hfind, hkept]
  refine (construct_byName t hparameters).trans ?_
  rw [RecordType.fieldsFrom_changed hsettable harguments hfields]
  rfl

end Schema
end RecordLens
