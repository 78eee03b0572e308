import RecordLens.Optic.Steps
import RecordLens.Proofs.FieldPaths
/-!
Records in runs of lens operations. Every value that a run makes is one that constructors have made, so
every record in it, however deep, has the fields of its type, and a field that no constructor takes has
its default. That is why setting what is read changes nothing: the constructor would put the default
back.

* `Schema.Declared`: types as they can be declared.
* `RecordType.Shapes`: the fields that a record of a type has.
* `Declared.lens`, `Declared.step`: what lenses and steps make of values that constructors have made.
* `Declared.run`: all values of a run.
* `run_keeps_shapes`: their shape, what failing steps leave alone, and the law that rests on it.
-/
namespace RecordLens

/-! ## Parts of values and shapes of records -/

/-- A value, the items of a tuple and the fields of a record, and what is inside them. -/
inductive Value.Inside (part : Value) : Value → Prop
  | self : Inside part part
  | item {items : List Value} {v : Value} : v ∈ items → Inside part v → Inside part (.tuple items)
  | field {type : String} {fields : List (String × Value)} {e : String × Value} :
    e ∈ fields → Inside part e.2 → Inside part (.record type fields)

namespace RecordType

/-- The slots that a record has a value for: those that the constructor takes, and of the others those
    with a default. -/
def filled (t : RecordType) : List Slot := t.slots.filter fun s => s.settable || s.default.isSome

/-- The fields of a record are those of its type, in their order, and a field that the constructor does
    not take has its default or is absent. -/
structure Shapes (t : RecordType) (fields : List (String × Value)) : Prop where
  names : fields.map (·.1) = t.filled.map (·.name)
  fixed : ∀ s ∈ t.slots, s.settable = false → fields.lookup s.name = s.default

theorem shapes_of_fieldsFrom {t : RecordType} {named fields : List (String × Value)}
    (hdistinct : t.Distinct) (h : fieldsFrom named t.slots = .ok fields) : t.Shapes fields := by
  refine ⟨?_, fun s hs hset => ?_⟩
  · obtain ⟨hall, rfl⟩ := fieldsFrom_eq_ok.1 h
    rw [filled, ← List.filterMap_eq_filter, List.map_filterMap, List.map_filterMap]
    refine List.filterMap_congr fun s hs => ?_
    have hfilled : (slotValue named s).isSome = (s.settable || s.default.isSome) := by
      cases hset : s.settable with
      | true => rw [hall s hs hset, Bool.true_or]
      | false => rw [slotValue, hset, if_neg Bool.false_ne_true, Bool.false_or]
    rw [slotField, Option.map_map]
    cases hvalue : slotValue named s with
    | none =>
      rw [hvalue] at hfilled
      simp [Option.guard, ← hfilled]
    | some v =>
      rw [hvalue] at hfilled
      simp [Option.guard, ← hfilled]
  · rw [hdistinct.lookup h hs, slotValue, hset, if_neg Bool.false_ne_true]

end RecordType

namespace Schema
variable {schema : Schema} {v w : Value}

theorem Built.inside (h : schema.Built w) (hv : Value.Inside v w) : schema.Built v := by
  induction hv with
  | self => exact h
  | item hmem _ ih =>
    cases h with
    | tuple hitems => exact ih (hitems _ hmem)
    | record _ _ _ _ _ hmake =>
      obtain ⟨_, -, hrecord⟩ := construct_eq_ok hmake
      exact nomatch hrecord
  | field hmem _ ih => exact ih (h.record_fields.2 _ hmem)

/-! ## Operations -/

/-- Types as they can be declared: the slots of each have different names, and the defaults are values
    that constructors have made. -/
def Declared (schema : Schema) : Prop :=
  ∀ t ∈ schema, t.Distinct ∧ ∀ s ∈ t.slots, ∀ v, s.default = some v → schema.Built v

theorem find?_eq_some {name : String} {t : RecordType} (h : schema.find? name = some t) :
    t ∈ schema ∧ t.name = name := by
  have hname := List.find?_some h
  exact ⟨List.mem_of_find?_eq_some h, of_decide_eq_true hname⟩

theorem Declared.construct (hschema : schema.Declared) {name : String} {t : RecordType}
    (hfind : schema.find? name = some t) {byPosition : List Value} {byName : List (String × Value)}
    (hpositions : ∀ v ∈ byPosition, schema.Built v) (hnames : ∀ e ∈ byName, schema.Built e.2)
    (hmake : t.construct byPosition byName = .ok w) : schema.Built w := by
  obtain ⟨hmem, rfl⟩ := find?_eq_some hfind
  obtain ⟨hdistinct, hdefaults⟩ := hschema t hmem
  exact .record hfind hdistinct hdefaults hpositions hnames hmake

theorem Built.items {items : List Value} (h : schema.Built (.tuple items)) :
    ∀ v ∈ items, schema.Built v := fun _ hv => h.inside (.item hv .self)

theorem built_of_numberAttribute? {n : Int} {name : String} (h : numberAttribute? n name = some v) :
    schema.Built v := by
  unfold numberAttribute? at h
  split at h
  · exact Option.some.inj h ▸ .int n
  · split at h
    · exact Option.some.inj h ▸ .int 0
    · split at h
      · exact Option.some.inj h ▸ .int 1
      · exact nomatch h

theorem Built.read (h : schema.Built w) {name : String} (hread : w.read name = .ok v) :
    schema.Built v := by
  have hnumber : ∀ {n : Int}, w.int? = some n → (∀ type fields, w ≠ .record type fields) →
      schema.Built v := by
    intro n hn hplain
    rw [Value.read.eq_2 w name fun type fields h => hplain type fields h, hn] at hread
    split at hread
    · rename_i value hvalue
      exact Except.ok.inj hread ▸ built_of_numberAttribute? hvalue
    · exact absurd hread error_ne_ok
  cases w with
  | record type fields =>
    exact h.record_fields.2 _ (Attributes.mem_of_lookup ((Value.read_record type fields).1 hread))
  | bool b => exact hnumber rfl fun _ _ h => by cases h
  | int n => exact hnumber rfl fun _ _ h => by cases h
  | none => exact absurd hread error_ne_ok
  | str s => exact absurd hread error_ne_ok
  | tuple items => exact absurd hread error_ne_ok

theorem Built.changedArguments (h : schema.Built w) {changes : List (String × Value)}
    {slots : List Slot} : ∀ {kept}, Schema.changedArguments w changes slots = .ok kept →
      ∀ e ∈ kept, schema.Built e.2 := by
  induction slots with
  | nil =>
    intro kept hkept
    obtain rfl := Except.ok.inj hkept
    exact nofun
  | cons s slots ih =>
    intro kept hkept
    rw [Schema.changedArguments] at hkept
    split at hkept
    · exact absurd hkept error_ne_ok
    · exact ih hkept
    · exact ih hkept
    · obtain ⟨v, hv, hkept⟩ := bind_eq_ok.1 hkept
      obtain ⟨rest, hrest, hkept⟩ := bind_eq_ok.1 hkept
      obtain rfl := Except.ok.inj hkept
      exact List.forall_mem_cons.2 ⟨h.read hv, ih hrest⟩

theorem Declared.replaced (hschema : schema.Declared) (h : schema.Built w)
    {changes : List (String × Value)} (hchanges : ∀ e ∈ changes, schema.Built e.2)
    (hset : schema.replaced w changes = .ok v) : schema.Built v := by
  unfold Schema.replaced at hset
  split at hset
  · split at hset
    · rename_i t hfind
      obtain ⟨kept, hkept, hmake⟩ := bind_eq_ok.1 hset
      exact hschema.construct hfind (fun _ hv => absurd hv List.not_mem_nil)
        (List.forall_mem_append.2 ⟨hchanges, h.changedArguments hkept⟩) hmake
    · exact absurd hset error_ne_ok
  · exact absurd hset error_ne_ok

theorem Built.itemAt (h : schema.Built w) {i : Int} (hitem : w.itemAt i = .ok v) :
    schema.Built v := by
  unfold Value.itemAt at hitem
  split at hitem
  · split at hitem
    · rename_i x hx
      obtain ⟨n, -, hn⟩ := Option.bind_eq_some_iff.1 hx
      exact Except.ok.inj hitem ▸ h.items x (List.mem_of_getElem? hn)
    · exact absurd hitem error_ne_ok
  · split at hitem
    · exact Except.ok.inj hitem ▸ .str _
    · exact absurd hitem error_ne_ok
  · exact absurd hitem error_ne_ok

/-! ## Lenses -/

/-- A lens gets and sets, on values that constructors have made, only such values. -/
structure KeepsBuilt (schema : Schema) (l : Lens Fault Value Value) : Prop where
  get : ∀ {w v}, schema.Built w → l.get w = .ok v → schema.Built v
  set : ∀ {w v w'}, schema.Built w → schema.Built v → l.set w v = .ok w' → schema.Built w'

theorem Declared.fieldLens (hschema : schema.Declared) (name : String) :
    schema.KeepsBuilt (schema.fieldLens name) where
  get hw hget := hw.read hget
  set hw hv hset := hschema.replaced hw (List.forall_mem_singleton.2 hv) hset

theorem KeepsBuilt.identity : schema.KeepsBuilt .identity where
  get hw hget := Except.ok.inj hget ▸ hw
  set _ hv hset := Except.ok.inj hset ▸ hv

variable {a b : Lens Fault Value Value}

theorem KeepsBuilt.compose (ha : schema.KeepsBuilt a) (hb : schema.KeepsBuilt b) :
    schema.KeepsBuilt (a.compose b) where
  get hw hget := by
    obtain ⟨v, hv, hget⟩ := bind_eq_ok.1 hget
    exact hb.get (ha.get hw hv) hget
  set hw hv hset := by
    obtain ⟨part, hpart, hset⟩ := bind_eq_ok.1 hset
    obtain ⟨part', hpart', hset⟩ := bind_eq_ok.1 hset
    exact ha.set hw (hb.set (ha.get hw hpart) hv hpart') hset

theorem KeepsBuilt.concat (ha : schema.KeepsBuilt a) (hb : schema.KeepsBuilt b) :
    schema.KeepsBuilt (Value.concat a b) where
  get hw hget := by
    obtain ⟨x, hx, hget⟩ := bind_eq_ok.1 hget
    obtain ⟨y, hy, hget⟩ := bind_eq_ok.1 hget
    refine Except.ok.inj hget ▸ .tuple fun v hv => ?_
    rcases List.mem_pair.1 hv with rfl | rfl
    · exact ha.get hw hx
    · exact hb.get hw hy
  set hw hv hset := by
    obtain ⟨x, hx, hset⟩ := bind_eq_ok.1 hset
    obtain ⟨between, hbetween, hset⟩ := bind_eq_ok.1 hset
    obtain ⟨y, hy, hset⟩ := bind_eq_ok.1 hset
    exact hb.set (ha.set hw (hv.itemAt hx) hbetween) (hv.itemAt hy) hset

/-- The induction is on how the lens is put together. -/
theorem Declared.lens (hschema : schema.Declared) (l : LensTerm) :
    schema.KeepsBuilt (l.lens schema) := by
  induction l with
  | field name => exact hschema.fieldLens name
  | identity => exact .identity
  | compose outer inner ihOuter ihInner => exact ihOuter.compose ihInner
  | concat first second ihFirst ihSecond => exact ihFirst.concat ihSecond

/-- A function makes of values that constructors have made only such values. -/
def Keeps (schema : Schema) (f : Value → Except Fault Value) : Prop :=
  ∀ ⦃v w⦄, schema.Built v → f v = .ok w → schema.Built w

theorem KeepsBuilt.lift (ha : schema.KeepsBuilt a) {f : Value → Except Fault Value}
    (hf : schema.Keeps f) : schema.Keeps (a.lift f) := by
  intro w w' hw hset
  obtain ⟨v, hv, hset⟩ := bind_eq_ok.1 hset
  obtain ⟨v', hv', hset⟩ := bind_eq_ok.1 hset
  exact ha.set hw (hf (ha.get hw hv) hv') hset

theorem Keeps.applyTimes {f : Value → Except Fault Value} (hf : schema.Keeps f) (n : Nat) :
    schema.Keeps (applyTimes f n) := by
  induction n with
  | zero => exact fun _ _ hw h => Except.ok.inj h ▸ hw
  | succ n ih =>
    intro w w' hw h
    obtain ⟨v, hv, h⟩ := bind_eq_ok.1 h
    exact ih (hf hw hv) h

theorem Built.keeps_add (h : schema.Built v) : schema.Keeps (·.add v) := by
  intro w u hw hadd
  change w.add v = .ok u at hadd
  unfold Value.add at hadd
  split at hadd
  · exact Except.ok.inj hadd ▸ .str _
  · exact Except.ok.inj hadd ▸ .tuple (List.forall_mem_append.2 ⟨hw.items, h.items⟩)
  · split at hadd
    · exact Except.ok.inj hadd ▸ .int _
    · exact absurd hadd error_ne_ok

/-! ## Steps and runs -/

section
variable {made : List Value}

mutual

theorem Declared.term (hschema : schema.Declared) (hmade : ∀ v ∈ made, schema.Built v) :
    ∀ (t : ValueTerm) {v}, t.value schema made = .ok v → schema.Built v
  | .none, _, h => Except.ok.inj h ▸ .none
  | .bool b, _, h => Except.ok.inj h ▸ .bool b
  | .int n, _, h => Except.ok.inj h ▸ .int n
  | .str s, _, h => Except.ok.inj h ▸ .str s
  | .earlier place, _, h => by
    rw [ValueTerm.value] at h
    split at h
    · rename_i hv
      exact Except.ok.inj h ▸ hmade _ (List.mem_of_getElem? hv)
    · exact absurd h error_ne_ok
  | .tuple items, _, h => by
    rw [ValueTerm.value] at h
    obtain ⟨vs, hvs, h⟩ := bind_eq_ok.1 h
    exact Except.ok.inj h ▸ .tuple (Declared.terms hschema hmade items hvs)
  | .record type byPosition byName, _, h => by
    rw [ValueTerm.value] at h
    split at h
    · rename_i t hfind
      obtain ⟨vs, hvs, h⟩ := bind_eq_ok.1 h
      obtain ⟨named, hnamed, h⟩ := bind_eq_ok.1 h
      exact hschema.construct hfind (Declared.terms hschema hmade byPosition hvs)
        (Declared.namedTerms hschema hmade byName hnamed) h
    · exact absurd h error_ne_ok

theorem Declared.terms (hschema : schema.Declared) (hmade : ∀ v ∈ made, schema.Built v) :
    ∀ (ts : List ValueTerm) {vs}, ValueTerm.values schema made ts = .ok vs →
      ∀ v ∈ vs, schema.Built v
  | [], _, h => by
    rw [ValueTerm.values] at h
    exact Except.ok.inj h ▸ nofun
  | t :: ts, _, h => by
    rw [ValueTerm.values] at h
    obtain ⟨v, hv, h⟩ := bind_eq_ok.1 h
    obtain ⟨vs, hvs, h⟩ := bind_eq_ok.1 h
    exact Except.ok.inj h ▸ List.forall_mem_cons.2
      ⟨Declared.term hschema hmade t hv, Declared.terms hschema hmade ts hvs⟩

theorem Declared.namedTerms (hschema : schema.Declared) (hmade : ∀ v ∈ made, schema.Built v) :
    ∀ (ts : List (String × ValueTerm)) {vs}, ValueTerm.namedValues schema made ts = .ok vs →
      ∀ e ∈ vs, schema.Built e.2
  | [], _, h => by
    rw [ValueTerm.namedValues] at h
    exact Except.ok.inj h ▸ nofun
  | (name, t) :: ts, _, h => by
    rw [ValueTerm.namedValues] at h
    obtain ⟨v, hv, h⟩ := bind_eq_ok.1 h
    obtain ⟨vs, hvs, h⟩ := bind_eq_ok.1 h
    exact Except.ok.inj h ▸ List.forall_mem_cons.2
      ⟨Declared.term hschema hmade t hv, Declared.namedTerms hschema hmade ts hvs⟩

end

end

end Schema

/-- The function of a step keeps what constructors have made: whatever else it does, it makes records by
    their constructors. -/
def Step.Fair (schema : Schema) : Step → Prop
  | .modify _ _ f => schema.Keeps f
  | .lift _ _ f _ => schema.Keeps f
  | _ => True

namespace Schema
variable {schema : Schema} {v : Value}

/-- What a step makes of values that constructors have made. -/
theorem Declared.step (hschema : schema.Declared) {made : List Value}
    (hmade : ∀ v ∈ made, schema.Built v) {step : Step} (hstep : step.Fair schema)
    (h : step.value schema made = .ok v) : schema.Built v := by
  cases step with
  | make t => exact hschema.term hmade t h
  | get l whole =>
    obtain ⟨w, hw, h⟩ := bind_eq_ok.1 h
    exact (hschema.lens l).get (hschema.term hmade whole hw) h
  | set l whole target =>
    obtain ⟨w, hw, h⟩ := bind_eq_ok.1 h
    obtain ⟨x, hx, h⟩ := bind_eq_ok.1 h
    exact (hschema.lens l).set (hschema.term hmade whole hw) (hschema.term hmade target hx) h
  | modify l whole f =>
    obtain ⟨w, hw, h⟩ := bind_eq_ok.1 h
    exact (hschema.lens l).lift hstep (hschema.term hmade whole hw) h
  | lift l whole f times =>
    obtain ⟨w, hw, h⟩ := bind_eq_ok.1 h
    exact ((hschema.lens l).lift hstep).applyTimes times (hschema.term hmade whole hw) h

/-- **Every value of a run is one that constructors have made.** The induction is on the steps that are
    left. -/
theorem Declared.run (hschema : schema.Declared) {steps : List Step} :
    ∀ {made : List Value}, (∀ v ∈ made, schema.Built v) → (∀ step ∈ steps, step.Fair schema) →
      ∀ v ∈ steps.foldl (Step.run schema) made, schema.Built v := by
  induction steps with
  | nil => exact fun hmade _ => hmade
  | cons step steps ih =>
    intro made hmade hsteps
    rw [List.forall_mem_cons] at hsteps
    refine ih ?_ hsteps.2
    rw [Step.run]
    split
    · rename_i v hv
      exact List.forall_mem_append.2
        ⟨hmade, List.forall_mem_singleton.2 (hschema.step hmade hsteps.1 hv)⟩
    · exact hmade

end Schema

/-! ## How steps fail -/

/-- The faults of lenses: a value of the wrong kind, a field that is absent, an item that is absent, a
    field that constructors do not take. -/
def lensFaults : List Fault := [.wrongKind, .noAttribute, .outOfRange, .notSettable]

section
variable {schema : Schema} {w v : Value} {e : Fault}

theorem lensFaults_of_read {name : String} (h : w.read name = .error e) : e ∈ lensFaults := by
  rw [Value.read.eq_def] at h
  dsimp only at h
  repeat' split at h
  all_goals first
    | exact absurd h.symm error_ne_ok
    | exact Except.error.inj h ▸ by decide

theorem lensFaults_of_itemAt {i : Int} (h : w.itemAt i = .error e) : e ∈ lensFaults := by
  rw [Value.itemAt.eq_def] at h
  repeat' split at h
  all_goals first
    | exact absurd h.symm error_ne_ok
    | exact Except.error.inj h ▸ by decide

theorem lensFaults_of_fieldsFrom {named : List (String × Value)} {slots : List Slot}
    (h : RecordType.fieldsFrom named slots = .error e) : e ∈ lensFaults := by
  induction slots with
  | nil => exact absurd h.symm error_ne_ok
  | cons s slots ih =>
    simp only [RecordType.fieldsFrom] at h
    split at h
    · rcases bind_eq_error.1 h with h | ⟨_, _, h⟩
      · exact ih h
      · exact absurd h.symm error_ne_ok
    · split at h
      · exact Except.error.inj h ▸ by decide
      · exact ih h

theorem lensFaults_of_construct {t : RecordType} {byPosition : List Value}
    {byName : List (String × Value)} (h : t.construct byPosition byName = .error e) :
    e ∈ lensFaults := by
  have hthrow : ∀ {rest : Unit → Except Fault Value}, (throw .wrongKind >>= rest) = .error e →
      e ∈ lensFaults := fun h => Except.error.inj h ▸ by decide
  simp only [RecordType.construct] at h
  split at h
  · exact hthrow h
  · split at h
    · exact hthrow h
    · split at h
      · exact hthrow h
      · rcases bind_eq_error.1 h with h | ⟨_, _, h⟩
        · exact lensFaults_of_fieldsFrom h
        · exact absurd h.symm error_ne_ok

theorem lensFaults_of_changedArguments {changes : List (String × Value)} {slots : List Slot}
    (h : Schema.changedArguments w changes slots = .error e) : e ∈ lensFaults := by
  induction slots with
  | nil => exact absurd h.symm error_ne_ok
  | cons s slots ih =>
    rw [Schema.changedArguments] at h
    split at h
    · exact Except.error.inj h ▸ by decide
    · exact ih h
    · exact ih h
    · rcases bind_eq_error.1 h with h | ⟨_, _, h⟩
      · exact lensFaults_of_read h
      · rcases bind_eq_error.1 h with h | ⟨_, _, h⟩
        · exact ih h
        · exact absurd h.symm error_ne_ok

theorem lensFaults_of_replaced {changes : List (String × Value)}
    (h : schema.replaced w changes = .error e) : e ∈ lensFaults := by
  unfold Schema.replaced at h
  split at h
  · split at h
    · rcases bind_eq_error.1 h with h | ⟨_, _, h⟩
      · exact lensFaults_of_changedArguments h
      · exact lensFaults_of_construct h
    · exact Except.error.inj h ▸ by decide
  · exact Except.error.inj h ▸ by decide

/-- Whatever lenses are put together, they fail in no other way. -/
theorem LensTerm.faults (schema : Schema) (l : LensTerm) :
    (∀ {w e}, (l.lens schema).get w = .error e → e ∈ lensFaults) ∧
    (∀ {w v e}, (l.lens schema).set w v = .error e → e ∈ lensFaults) := by
  induction l with
  | field name => exact ⟨lensFaults_of_read, lensFaults_of_replaced⟩
  | identity => exact ⟨fun h => absurd h.symm error_ne_ok, fun h => absurd h.symm error_ne_ok⟩
  | compose outer inner ihOuter ihInner =>
    constructor
    · intro w e h
      rcases bind_eq_error.1 h with h | ⟨_, _, h⟩
      · exact ihOuter.1 h
      · exact ihInner.1 h
    · intro w v e h
      rcases bind_eq_error.1 h with h | ⟨_, _, h⟩
      · exact ihOuter.1 h
      · rcases bind_eq_error.1 h with h | ⟨_, _, h⟩
        · exact ihInner.2 h
        · exact ihOuter.2 h
  | concat first second ihFirst ihSecond =>
    constructor
    · intro w e h
      rcases bind_eq_error.1 h with h | ⟨_, _, h⟩
      · exact ihFirst.1 h
      · rcases bind_eq_error.1 h with h | ⟨_, _, h⟩
        · exact ihSecond.1 h
        · exact absurd h.symm error_ne_ok
    · intro w v e h
      rcases bind_eq_error.1 h with h | ⟨_, _, h⟩
      · exact lensFaults_of_itemAt h
      · rcases bind_eq_error.1 h with h | ⟨_, _, h⟩
        · exact ihFirst.2 h
        · rcases bind_eq_error.1 h with h | ⟨_, _, h⟩
          · exact lensFaults_of_itemAt h
          · exact ihSecond.2 h

end

section
variable {schema : Schema} {made : List Value} {e : Fault}

mutual

theorem ValueTerm.faults : ∀ t : ValueTerm, t.value schema made = .error e →
    e = .noName ∨ e ∈ lensFaults
  | .none, h | .bool _, h | .int _, h | .str _, h => absurd h.symm error_ne_ok
  | .earlier place, h => by
    rw [ValueTerm.value] at h
    split at h
    · exact absurd h.symm error_ne_ok
    · exact .inl (Except.error.inj h).symm
  | .tuple items, h => by
    rw [ValueTerm.value] at h
    rcases bind_eq_error.1 h with h | ⟨_, _, h⟩
    · exact ValueTerm.faults_values items h
    · exact absurd h.symm error_ne_ok
  | .record type byPosition byName, h => by
    rw [ValueTerm.value] at h
    split at h
    · rcases bind_eq_error.1 h with h | ⟨_, _, h⟩
      · exact ValueTerm.faults_values byPosition h
      · rcases bind_eq_error.1 h with h | ⟨_, _, h⟩
        · exact ValueTerm.faults_namedValues byName h
        · exact .inr (lensFaults_of_construct h)
    · exact .inl (Except.error.inj h).symm

theorem ValueTerm.faults_values : ∀ ts : List ValueTerm, ValueTerm.values schema made ts = .error e →
    e = .noName ∨ e ∈ lensFaults
  | [], h => by
    rw [ValueTerm.values] at h
    exact absurd h.symm error_ne_ok
  | t :: ts, h => by
    rw [ValueTerm.values] at h
    rcases bind_eq_error.1 h with h | ⟨_, _, h⟩
    · exact ValueTerm.faults t h
    · rcases bind_eq_error.1 h with h | ⟨_, _, h⟩
      · exact ValueTerm.faults_values ts h
      · exact absurd h.symm error_ne_ok

theorem ValueTerm.faults_namedValues : ∀ ts : List (String × ValueTerm),
    ValueTerm.namedValues schema made ts = .error e → e = .noName ∨ e ∈ lensFaults
  | [], h => by
    rw [ValueTerm.namedValues] at h
    exact absurd h.symm error_ne_ok
  | (name, t) :: ts, h => by
    rw [ValueTerm.namedValues] at h
    rcases bind_eq_error.1 h with h | ⟨_, _, h⟩
    · exact ValueTerm.faults t h
    · rcases bind_eq_error.1 h with h | ⟨_, _, h⟩
      · exact ValueTerm.faults_namedValues ts h
      · exact absurd h.symm error_ne_ok

end

/-- A function fails along a lens if it fails itself, or if the lens does. -/
theorem LensTerm.faults_lift {l : LensTerm} {f : Value → Except Fault Value} {w : Value}
    (h : (l.lens schema).lift f w = .error e) : e ∈ lensFaults ∨ ∃ v, f v = .error e := by
  rcases bind_eq_error.1 h with h | ⟨v, _, h⟩
  · exact .inl ((l.faults schema).1 h)
  · rcases bind_eq_error.1 h with h | ⟨_, _, h⟩
    · exact .inr ⟨v, h⟩
    · exact .inl ((l.faults schema).2 h)

theorem faults_applyTimes {f : Value → Except Fault Value} {p : Fault → Prop}
    (hf : ∀ w e, f w = .error e → p e) (n : Nat) : ∀ w e, applyTimes f n w = .error e → p e := by
  induction n with
  | zero => exact fun _ _ h => absurd h.symm error_ne_ok
  | succ n ih =>
    intro w e h
    rcases bind_eq_error.1 h with h | ⟨_, _, h⟩
    · exact hf w e h
    · exact ih _ e h

/-- What the function of a step raises. -/
def Step.Raises (e : Fault) : Step → Prop
  | .modify _ _ f => ∃ v, f v = .error e
  | .lift _ _ f _ => ∃ v, f v = .error e
  | _ => False

/-- A step fails in a way in which lenses fail, or because it names nothing that is there, or because
    its own function does. -/
theorem Step.faults {step : Step} (h : step.value schema made = .error e) :
    e = .noName ∨ e ∈ lensFaults ∨ step.Raises e := by
  have hterm : ∀ {t : ValueTerm}, t.value schema made = .error e →
      e = .noName ∨ e ∈ lensFaults ∨ step.Raises e := fun {t} h =>
    (t.faults h).imp_right .inl
  cases step with
  | make t => exact hterm h
  | get l whole =>
    rcases bind_eq_error.1 h with h | ⟨_, _, h⟩
    · exact hterm h
    · exact .inr (.inl ((l.faults schema).1 h))
  | set l whole target =>
    rcases bind_eq_error.1 h with h | ⟨_, _, h⟩
    · exact hterm h
    · rcases bind_eq_error.1 h with h | ⟨_, _, h⟩
      · exact hterm h
      · exact .inr (.inl ((l.faults schema).2 h))
  | modify l whole f =>
    rcases bind_eq_error.1 h with h | ⟨_, _, h⟩
    · exact hterm h
    · exact .inr (l.faults_lift h)
  | lift l whole f times =>
    rcases bind_eq_error.1 h with h | ⟨w, _, h⟩
    · exact hterm h
    · exact .inr (faults_applyTimes (fun _ _ => l.faults_lift) times w e h)

end

/-! ## Runs -/

/-- A run one step longer: the step adds its value, or nothing if it fails. -/
theorem Schema.run_append (schema : Schema) (steps : List Step) (step : Step) :
    schema.run (steps ++ [step]) = step.run schema (schema.run steps) := by
  rw [Schema.run, List.foldl_append]
  rfl

/-- **Records keep their shape through every run of lens operations.** Every record inside a value that a
    run has made has a type of the schema, the fields of its type in their order, and the default in
    every field that constructors do not take. A step adds its value to those of the run; if it fails,
    the values are what they were, and it fails as lenses, constructors or its own function do. On every
    record that a run comes to, setting a field that the constructor takes to what is read from it
    gives the same record. -/
theorem run_keeps_shapes {schema : Schema} (hschema : schema.Declared) {steps : List Step}
    (hsteps : ∀ step ∈ steps, step.Fair schema) :
    (∀ v ∈ schema.run steps, ∀ type fields, Value.Inside (.record type fields) v →
      ∃ t, schema.find? type = some t ∧ t.Shapes fields ∧
        ∀ s ∈ t.slots, s.settable = true → ∃ x,
          (schema.fieldLens s.name).get (.record type fields) = .ok x ∧
          (schema.fieldLens s.name).set (.record type fields) x = .ok (.record type fields)) ∧
    ∀ step : Step,
      (∀ v, step.value schema (schema.run steps) = .ok v →
        schema.run (steps ++ [step]) = schema.run steps ++ [v]) ∧
      ∀ e, step.value schema (schema.run steps) = .error e →
        schema.run (steps ++ [step]) = schema.run steps ∧
        (e = .noName ∨ e ∈ lensFaults ∨ step.Raises e) := by
  constructor
  · intro v hv type fields hinside
    have hbuilt : schema.Built (.record type fields) :=
      (hschema.run (fun _ h => absurd h List.not_mem_nil) hsteps v hv).inside hinside
    obtain ⟨t, hmakes⟩ := hbuilt.record_fields.1
    have hlawful : ∀ s ∈ t.slots, s.settable = true →
        schema.CanReplace s.name (.record type fields) := fun s hs hset =>
      ⟨t, hmakes, List.mem_map_of_mem (List.mem_filter.2 ⟨hs, hset⟩)⟩
    obtain ⟨hfind, hdistinct, named, fields', hfields, hrecord⟩ := hmakes
    obtain ⟨rfl, rfl⟩ := Value.record.inj hrecord
    refine ⟨t, hfind, RecordType.shapes_of_fieldsFrom hdistinct hfields, fun s hs hset => ?_⟩
    have hreplace := hlawful s hs hset
    obtain ⟨x, hx⟩ := (Schema.fieldLens_lawfulOn schema s.name).get_ok hreplace
    exact ⟨x, hx, (Schema.fieldLens_lawfulOn schema s.name).set_get hreplace hx⟩
  · intro step
    rw [schema.run_append, Step.run]
    refine ⟨fun v hv => by rw [hv], fun e he => ⟨by rw [he], step.faults he⟩⟩

theorem people_declared : people.Declared := by
  intro t ht
  rcases List.mem_pair.1 ht with rfl | rfl
  · refine ⟨by decide, fun s hs v hv => ?_⟩
    simp only [addressType, List.mem_cons, List.not_mem_nil, or_false] at hs
    rcases hs with rfl | rfl | rfl
    · cases hv
    · exact Option.some.inj hv ▸ .str "0000"
    · exact Option.some.inj hv ▸ .int 1
  · refine ⟨by decide, fun s hs v hv => ?_⟩
    simp only [personType, List.mem_cons, List.not_mem_nil, or_false] at hs
    rcases hs with rfl | rfl | rfl
    · cases hv
    · cases hv
    · exact Option.some.inj hv ▸ .int 0

/-- A person is made and grows older; the version of her home cannot be set. -/
def birthdays : List Step :=
  [.make (.record "Address" [.str "Oslo"] []),
   .make (.record "Person" [.str "Alice", .earlier 0] [("age", .int 30)]),
   .set (.compose (.field "home") (.field "version")) (.earlier 1) (.int 2),
   .lift (.field "age") (.earlier 1) (·.add (.int 1)) 2]

theorem run_keeps_shapes_birthdays :
    people.Declared ∧ (∀ step ∈ birthdays, step.Fair people) ∧
    people.run birthdays = [oslo, alice, alice.alter "age" fun _ => .int 32] ∧
    (∀ v ∈ people.run birthdays, ∀ type fields, Value.Inside (.record type fields) v →
      ∃ t, people.find? type = some t ∧ t.Shapes fields ∧
        ∀ s ∈ t.slots, s.settable = true → ∃ x,
          (people.fieldLens s.name).get (.record type fields) = .ok x ∧
          (people.fieldLens s.name).set (.record type fields) x = .ok (.record type fields)) ∧
    people.run (birthdays ++ [.get (.field "zip") (.earlier 1)]) = people.run birthdays := by
  have hfair : ∀ step ∈ birthdays, step.Fair people := by
    intro step hstep
    simp only [birthdays, List.mem_cons, List.not_mem_nil, or_false] at hstep
    rcases hstep with rfl | rfl | rfl | rfl
    · trivial
    · trivial
    · trivial
    · exact Schema.Built.keeps_add (.int 1)
  obtain ⟨hshapes, hsteps⟩ := run_keeps_shapes people_declared hfair
  have hzip : (Step.get (.field "zip") (.earlier 1)).value people (people.run birthdays) =
      .error .noAttribute := rfl
  exact ⟨people_declared, hfair, rfl, hshapes, ((hsteps _).2 _ hzip).1⟩

end RecordLens
