import RecordLens.Proofs.LensClosure
import RecordLens.Proofs.RecordFields
/-!
Paths of fields. A path leads from a record through records inside it to a value. The lenses of its
fields, composed, put another value at its end and build all records on the way again with the
constructors of their types; records that constructors have made come out as they were but for that
value.

* `Value.readAlong`, `Value.putAlong`: the value at the end of a path, and another one in its place.
* `Schema.CanReplaceAlong`: records on whose path each field can be replaced.
* `Schema.pathChain_lawfulOn`, `Schema.pathChain_set`: the lens of a path.
* `Value.readAlong_putAlong`, `Value.putAlong_comm`: paths that diverge.
* `paths_lawful`: the lenses of paths of records that constructors have made.
-/
namespace RecordLens

/-! ## Values along a path -/

namespace Value

/-- The value at the end of a path. -/
def readAlong : List String → Value → Except Fault Value
  | [], w => .ok w
  | n :: p, w => w.read n >>= readAlong p

/-- Another value at the end of a path. -/
def putAlong : List String → Value → Value → Value
  | [], _, x => x
  | n :: p, w, x => w.alter n fun v => putAlong p v x

/-- The type of a record. -/
def typeName? : Value → Option String
  | .record type _ => some type
  | _ => Option.none

theorem typeName?_alter (name : String) (f : Value → Value) (w : Value) :
    (w.alter name f).typeName? = w.typeName? := by cases w <;> rfl

/-- Two paths diverge if they differ at some position that both have. -/
def Diverge (p q : List String) : Prop := ¬p <+: q ∧ ¬q <+: p

theorem Diverge.symm {p q : List String} (h : Diverge p q) : Diverge q p := ⟨h.2, h.1⟩

theorem Diverge.tail {n : String} {p q : List String} (h : Diverge (n :: p) (n :: q)) :
    Diverge p q :=
  ⟨fun hp => h.1 (List.cons_prefix_cons.2 ⟨rfl, hp⟩),
   fun hq => h.2 (List.cons_prefix_cons.2 ⟨rfl, hq⟩)⟩

/-- **Values at the ends of diverging paths are put independently.** -/
theorem putAlong_comm {p q : List String} (h : Diverge p q) (x y w : Value) :
    (w.putAlong p x).putAlong q y = (w.putAlong q y).putAlong p x := by
  induction p generalizing q w with
  | nil => exact absurd List.nil_prefix h.1
  | cons n p ih =>
    cases q with
    | nil => exact absurd List.nil_prefix h.2
    | cons m q =>
      by_cases hsame : n = m
      · subst hsame
        rw [putAlong, putAlong, putAlong, putAlong, alter_alter, alter_alter]
        exact congrArg (alter n · w) (funext fun v => ih h.tail v)
      · exact alter_comm hsame _ _ w

end Value

/-! ## Paths of a schema -/

namespace Schema
variable {schema : Schema} {n m : String} {p q : List String} {w x y : Value}

/-- A path is valid on a value: up to its end it goes through records, by fields that the constructors of
    their types take. -/
def IsPath (schema : Schema) : List String → Value → Prop
  | [], _ => True
  | n :: p, w => ∃ type fields t v, w = .record type fields ∧ schema.find? type = some t ∧
      n ∈ t.parameters.map (·.name) ∧ w.read n = .ok v ∧ schema.IsPath p v

/-- A value on whose path every field can be replaced. -/
def CanReplaceAlong (schema : Schema) : List String → Value → Prop
  | [], _ => True
  | n :: p, w => schema.CanReplace n w ∧ ∃ v, w.read n = .ok v ∧ schema.CanReplaceAlong p v

/-- The lenses along a path with at least one field. -/
def pathChain (schema : Schema) : String → List String → LensChain Fault Value Value
  | n, [] => .single (schema.fieldLens n)
  | n, m :: p => .cons (schema.fieldLens n) (schema.pathChain m p)

theorem CanReplaceAlong.isPath (h : schema.CanReplaceAlong p w) : schema.IsPath p w := by
  induction p generalizing w with
  | nil => trivial
  | cons n p ih =>
    obtain ⟨⟨t, ⟨hfind, -, named, fields, -, rfl⟩, hname⟩, v, hread, hrest⟩ := h
    exact ⟨t.name, fields, t, v, rfl, hfind, hname, hread, ih hrest⟩

/-! ### One field -/

theorem CanReplace.alter (h : schema.CanReplace n w) (hm : schema.CanReplace m w)
    (f : Value → Value) : schema.CanReplace m (w.alter n f) := by
  obtain ⟨t, hmakes, hname⟩ := h
  obtain ⟨t', hmakes', hname'⟩ := hm
  have hsame : t' = t := by
    obtain ⟨hfind, -, _, _, -, rfl⟩ := hmakes
    obtain ⟨hfind', -, _, _, -, hrecord⟩ := hmakes'
    rw [(Value.record.inj hrecord).1, hfind'] at hfind
    exact Option.some.inj hfind
  exact ⟨t, hmakes.alter hname f, hsame ▸ hname'⟩

theorem CanReplace.read_alter (h : schema.CanReplace n w) {v : Value} (hread : w.read n = .ok v)
    (f : Value → Value) : (w.alter n f).read n = .ok (f v) := by
  obtain ⟨t, ⟨-, -, _, _, -, rfl⟩, -⟩ := h
  exact Value.read_alter f hread

theorem CanReplace.alter_congr (h : schema.CanReplace n w) {v : Value} (hread : w.read n = .ok v)
    {f g : Value → Value} (hv : f v = g v) : w.alter n f = w.alter n g := by
  obtain ⟨t, ⟨-, hdistinct, _, _, hfields, rfl⟩, -⟩ := h
  exact Value.alter_congr (hdistinct.field_names hfields) hread hv

theorem CanReplace.alter_eq_self (h : schema.CanReplace n w) {v : Value}
    (hread : w.read n = .ok v) {f : Value → Value} (hv : f v = v) : w.alter n f = w := by
  obtain ⟨t, ⟨-, hdistinct, _, _, hfields, rfl⟩, -⟩ := h
  exact Value.alter_eq_self (hdistinct.field_names hfields) hread hv

/-- The lens of a field is lawful on records whose field can be replaced. -/
theorem fieldLens_lawfulOn (schema : Schema) (n : String) :
    (schema.fieldLens n).LawfulOn (schema.CanReplace n) := by
  refine .of_update (fun x w => w.alter n fun _ => x) ?_ ?_ ?_ ?_ ?_ ?_
  · exact fun w hw => hw.read
  · exact fun w x hw => replaced_eq hw x
  · exact fun w x hw => hw.alter hw _
  · intro w x hw
    obtain ⟨v, hv⟩ := hw.read
    exact hw.read_alter hv fun _ => x
  · exact fun w x hw hread => hw.alter_eq_self hread rfl
  · exact fun w x y _ => Value.alter_alter n (fun _ => y) (fun _ => x) w

/-! ### The lens of a path -/

theorem pathChain_get (schema : Schema) (n : String) (p : List String) (w : Value) :
    (schema.pathChain n p).lens.get w = w.readAlong (n :: p) := by
  induction p generalizing n w with
  | nil => exact (bind_pure (w.read n)).symm
  | cons m p ih =>
    have hrest : (schema.pathChain m p).lens.get = Value.readAlong (m :: p) := funext (ih m)
    rw [Value.readAlong, ← hrest]
    rfl

/-- **The lens of a path is lawful** on values on whose path every field can be replaced. -/
theorem pathChain_lawfulOn (schema : Schema) (n : String) (p : List String) :
    (schema.pathChain n p).lens.LawfulOn (schema.CanReplaceAlong (n :: p)) := by
  induction p generalizing n with
  | nil =>
    have hsame : schema.CanReplaceAlong [n] = schema.CanReplace n :=
      funext fun w => propext ⟨fun h => h.1, fun h => ⟨h, h.read.imp fun v hv => ⟨hv, trivial⟩⟩⟩
    exact hsame ▸ schema.fieldLens_lawfulOn n
  | cons m p ih => exact (schema.fieldLens_lawfulOn n).compose (ih m)

/-- Setting through the lens of a path puts the value at its end. -/
theorem pathChain_set (h : schema.CanReplaceAlong (n :: p) w) (x : Value) :
    (schema.pathChain n p).lens.set w x = .ok (w.putAlong (n :: p) x) := by
  induction p generalizing n w with
  | nil => exact replaced_eq h.1 x
  | cons m p ih =>
    obtain ⟨hfield, v, hread, hrest⟩ := h
    have hinner : (schema.pathChain m p).lens.set v x = .ok (v.putAlong (m :: p) x) := ih hrest
    calc (schema.pathChain n (m :: p)).lens.set w x
        = (schema.pathChain m p).lens.set v x >>= (schema.fieldLens n).set w :=
          Lens.compose_set_ok hread _ x
      _ = schema.replaced w [(n, v.putAlong (m :: p) x)] := by rw [hinner]; rfl
      _ = .ok (w.alter n fun _ => v.putAlong (m :: p) x) := replaced_eq hfield _
      _ = .ok (w.putAlong (n :: m :: p) x) :=
          congrArg Except.ok (hfield.alter_congr hread rfl)

/-- What is read along a path that does not go through the end of another is the same after a value was
    put there, if it is read along a diverging one, and of the same type in any case. -/
theorem readAlong_putAlong (h : schema.CanReplaceAlong p w) (x : Value) {r : List String} :
    (Value.Diverge p r → (w.putAlong p x).readAlong r = w.readAlong r) ∧
    (¬p <+: r → ((w.putAlong p x).readAlong r).map Value.typeName? =
      (w.readAlong r).map Value.typeName?) := by
  induction p generalizing w r with
  | nil => exact ⟨fun hr => absurd List.nil_prefix hr.1, fun hr => absurd List.nil_prefix hr⟩
  | cons n p ih =>
    obtain ⟨hfield, v, hread, hrest⟩ := h
    cases r with
    | nil =>
      refine ⟨fun hr => absurd List.nil_prefix hr.2, fun _ => ?_⟩
      exact congrArg Except.ok (Value.typeName?_alter n _ w)
    | cons m r =>
      by_cases hsame : m = n
      · subst hsame
        have hboth : ∀ k, (w.putAlong (m :: p) x).readAlong (m :: k) = (v.putAlong p x).readAlong k ∧
            w.readAlong (m :: k) = v.readAlong k := by
          intro k
          rw [Value.readAlong, Value.readAlong, Value.putAlong, hfield.read_alter hread, hread]
          exact ⟨rfl, rfl⟩
        rw [(hboth r).1, (hboth r).2]
        exact ⟨fun hr => (ih hrest).1 hr.tail,
          fun hr => (ih hrest).2 fun hp => hr (List.cons_prefix_cons.2 ⟨rfl, hp⟩)⟩
      · have hother : (w.putAlong (n :: p) x).readAlong (m :: r) = w.readAlong (m :: r) := by
          rw [Value.readAlong, Value.readAlong, Value.putAlong, Value.read_alter_ne hsame]
        rw [hother]
        exact ⟨fun _ => rfl, fun _ => rfl⟩

/-- Putting a value at the end of one path leaves the fields of a diverging one replaceable. -/
theorem CanReplaceAlong.putAlong (hp : schema.CanReplaceAlong p w)
    (hq : schema.CanReplaceAlong q w) (h : Value.Diverge p q) (x : Value) :
    schema.CanReplaceAlong q (w.putAlong p x) := by
  induction p generalizing q w with
  | nil => exact absurd List.nil_prefix h.1
  | cons n p ih =>
    cases q with
    | nil => trivial
    | cons m q =>
      obtain ⟨hfield, v, hread, hrest⟩ := hp
      obtain ⟨hfield', v', hread', hrest'⟩ := hq
      refine ⟨hfield.alter hfield' _, ?_⟩
      by_cases hsame : m = n
      · subst hsame
        obtain rfl := Except.ok.inj (hread.symm.trans hread')
        exact ⟨_, hfield.read_alter hread _, ih hrest hrest' h.tail⟩
      · exact ⟨v', by rw [Value.putAlong, Value.read_alter_ne hsame, hread'], hrest'⟩

/-! ## Records that constructors have made -/

/-- Values that are plain, or tuples of such values, or records that the constructor of a type of the
    schema makes of such values. What a type gives its slots by default is such a value, too. -/
inductive Built (schema : Schema) : Value → Prop
  | none : Built schema .none
  | bool (b : Bool) : Built schema (.bool b)
  | int (n : Int) : Built schema (.int n)
  | str (s : String) : Built schema (.str s)
  | tuple {items : List Value} : (∀ v ∈ items, Built schema v) → Built schema (.tuple items)
  | record {t : RecordType} {byPosition : List Value} {byName : List (String × Value)} {w : Value} :
    schema.find? t.name = some t → t.Distinct →
    (∀ s ∈ t.slots, ∀ v, s.default = some v → Built schema v) →
    (∀ v ∈ byPosition, Built schema v) → (∀ e ∈ byName, Built schema e.2) →
    t.construct byPosition byName = .ok w → Built schema w

theorem construct_eq_ok {t : RecordType} {byPosition : List Value} {byName : List (String × Value)}
    (h : t.construct byPosition byName = .ok w) :
    ∃ fields, RecordType.fieldsFrom ((t.positions.map (·.name)).zip byPosition ++ byName) t.slots =
      .ok fields ∧ w = .record t.name fields := by
  simp only [RecordType.construct] at h
  have hthrow : ∀ {rest : Unit → Except Fault Value}, (throw .wrongKind >>= rest) ≠ .ok w := error_ne_ok
  split at h
  · exact absurd h hthrow
  · split at h
    · exact absurd h hthrow
    · split at h
      · exact absurd h hthrow
      · obtain ⟨fields, hfields, hw⟩ := bind_eq_ok.1 h
        exact ⟨fields, hfields, (Except.ok.inj hw).symm⟩

theorem Built.record_fields {type : String} {fields : List (String × Value)}
    (h : schema.Built (.record type fields)) :
    (∃ t, schema.Makes t (.record type fields)) ∧ ∀ e ∈ fields, schema.Built e.2 := by
  cases h with
  | @record t byPosition byName _ hfind hdistinct hdefaults hpositions hnames hmake =>
    obtain ⟨_, hfields, hrecord⟩ := construct_eq_ok hmake
    obtain ⟨rfl, rfl⟩ := Value.record.inj hrecord
    refine ⟨⟨t, hfind, hdistinct, _, _, hfields, rfl⟩, fun e he => ?_⟩
    obtain ⟨-, rfl⟩ := RecordType.fieldsFrom_eq_ok.1 hfields
    obtain ⟨s, hs, hslot⟩ := List.mem_filterMap.1 he
    obtain ⟨v, hv, rfl⟩ := Option.map_eq_some_iff.1 hslot
    -- a value comes from an argument or from the default of its slot
    rw [RecordType.slotValue] at hv
    split at hv
    · rcases Option.or_eq_some_iff.1 hv with hargument | ⟨-, hdefault⟩
      · have hmem := Attributes.mem_of_lookup hargument
        rcases List.mem_append.1 hmem with hplaced | hnamed
        · exact hpositions _ (List.of_mem_zip hplaced).2
        · exact hnames _ hnamed
      · exact hdefaults s hs v hdefault
    · exact hdefaults s hs v hv

/-- On a value that constructors have made, the fields of every valid path can be replaced. -/
theorem Built.canReplaceAlong (h : schema.Built w) (hp : schema.IsPath p w) :
    schema.CanReplaceAlong p w := by
  induction p generalizing w with
  | nil => trivial
  | cons n p ih =>
    obtain ⟨type, fields, t, v, rfl, hfind, hname, hread, hrest⟩ := hp
    obtain ⟨⟨t', hmakes⟩, hbuilt⟩ := h.record_fields
    have hsame : t' = t := by
      obtain ⟨hfind', -, _, _, -, hrecord⟩ := hmakes
      rw [← (Value.record.inj hrecord).1, hfind] at hfind'
      exact (Option.some.inj hfind').symm
    have hmem : (n, v) ∈ fields := Attributes.mem_of_lookup ((Value.read_record _ _).1 hread)
    exact ⟨⟨t, hsame ▸ hmakes, hname⟩, v, hread, ih (hbuilt _ hmem) hrest⟩

end Schema

/-! ## Lenses along paths, composed in any way -/

/-- One value differs from another at the end of a path only: along a path that diverges from it, the
    same is read, and whatever is not inside the changed value has kept its type. -/
structure Value.ChangedAt (p : List String) (w w' : Value) : Prop where
  elsewhere : ∀ r, Value.Diverge p r → w'.readAlong r = w.readAlong r
  types : ∀ r, ¬p <+: r →
    (w'.readAlong r).map Value.typeName? = (w.readAlong r).map Value.typeName?

section
variable {schema : Schema} {n m : String} {p q : List String} {w : Value}
  {a b : Bracketing Fault Value Value} (ha : a.chain = schema.pathChain n p)
include ha

theorem sameAs_pathChain : a.composed.SameAs (schema.pathChain n p).lens := ha ▸ a.sameAs_chain

theorem composed_lawfulOn : a.composed.LawfulOn (schema.CanReplaceAlong (n :: p)) :=
  (sameAs_pathChain ha).lawfulOn (schema.pathChain_lawfulOn n p)

theorem composed_get (w : Value) : a.composed.get w = w.readAlong (n :: p) :=
  ((sameAs_pathChain ha).get w).trans (schema.pathChain_get n p w)

theorem composed_set (hp : schema.CanReplaceAlong (n :: p) w) (x : Value) :
    a.composed.set w x = .ok (w.putAlong (n :: p) x) :=
  ((sameAs_pathChain ha).set w x).trans (Schema.pathChain_set hp x)

variable (hb : b.chain = schema.pathChain m q) (h : Value.Diverge (n :: p) (m :: q))
include hb h

/-- Lenses along diverging paths commute. -/
theorem composed_commuteOn : a.composed.CommuteOn b.composed fun w =>
    schema.CanReplaceAlong (n :: p) w ∧ schema.CanReplaceAlong (m :: q) w := by
  refine .of_update (fun x w => w.putAlong (n :: p) x) (fun y w => w.putAlong (m :: q) y)
    ?_ ?_ ?_ ?_ ?_
  · exact fun w x hw => composed_set ha hw.1 x
  · exact fun w y hw => composed_set hb hw.2 y
  · intro w x hw
    obtain ⟨w', hset, hholds⟩ := (composed_lawfulOn ha).set_ok x hw.1
    rw [composed_set ha hw.1] at hset
    exact ⟨Except.ok.inj hset ▸ hholds, hw.1.putAlong hw.2 h x⟩
  · intro w y hw
    obtain ⟨w', hset, hholds⟩ := (composed_lawfulOn hb).set_ok y hw.2
    rw [composed_set hb hw.2] at hset
    exact ⟨hw.2.putAlong hw.1 h.symm y, Except.ok.inj hset ▸ hholds⟩
  · exact fun w x y _ => Value.putAlong_comm h x y w

theorem composed_concat_lawfulAt (hp : schema.CanReplaceAlong (n :: p) w)
    (hq : schema.CanReplaceAlong (m :: q) w) : (a.composed.concat b.composed).LawfulAt w := by
  have hboth : a.composed.LawfulOn fun w =>
      schema.CanReplaceAlong (n :: p) w ∧ schema.CanReplaceAlong (m :: q) w := by
    refine (composed_lawfulOn ha).keeping fun w x w' hw hw' hset => ?_
    rw [composed_set ha hw] at hset
    exact Except.ok.inj hset ▸ hw.putAlong hw' h x
  have hboth' : b.composed.LawfulOn fun w =>
      schema.CanReplaceAlong (n :: p) w ∧ schema.CanReplaceAlong (m :: q) w := by
    have hkeep : b.composed.LawfulOn fun w =>
        schema.CanReplaceAlong (m :: q) w ∧ schema.CanReplaceAlong (n :: p) w := by
      refine (composed_lawfulOn hb).keeping fun w y w' hw hw' hset => ?_
      rw [composed_set hb hw] at hset
      exact Except.ok.inj hset ▸ hw.putAlong hw' h.symm y
    have hswap : (fun w => schema.CanReplaceAlong (m :: q) w ∧ schema.CanReplaceAlong (n :: p) w) =
        fun w => schema.CanReplaceAlong (n :: p) w ∧ schema.CanReplaceAlong (m :: q) w :=
      funext fun w => propext and_comm
    exact hswap ▸ hkeep
  exact (hboth.concat hboth' (composed_commuteOn ha hb h)).at ⟨hp, hq⟩

end

/-- **Lenses of paths are lawful, and independent where the paths diverge.** On a value that constructors
    have made, the lenses along a valid path, composed in any way, obey the lens laws; setting changes
    nothing off the path and keeps the types of all records. If another valid path diverges from it, it
    stays valid with the value at its end, the setters commute, and the two lenses side by side obey the
    laws in either order. -/
theorem paths_lawful (schema : Schema) (w : Value) (hw : schema.Built w) (n : String)
    (p : List String) (hp : schema.IsPath (n :: p) w) (a : Bracketing Fault Value Value)
    (ha : a.chain = schema.pathChain n p) :
    a.composed.LawfulAt w ∧
    (∀ x w', a.composed.set w x = .ok w' → Value.ChangedAt (n :: p) w w') ∧
    ∀ m q, schema.IsPath (m :: q) w → Value.Diverge (n :: p) (m :: q) →
      ∀ b : Bracketing Fault Value Value, b.chain = schema.pathChain m q →
      (∀ x w', a.composed.set w x = .ok w' →
        schema.IsPath (m :: q) w' ∧ b.composed.get w' = b.composed.get w) ∧
      a.composed.CommuteAt b.composed w ∧
      (a.composed.concat b.composed).LawfulAt w ∧ (b.composed.concat a.composed).LawfulAt w := by
  have hpath : schema.CanReplaceAlong (n :: p) w := hw.canReplaceAlong hp
  have hresult : ∀ {x w'}, a.composed.set w x = .ok w' → w' = w.putAlong (n :: p) x :=
    fun hset => Except.ok.inj (hset.symm.trans (composed_set ha hpath _))
  refine ⟨(composed_lawfulOn ha).at hpath, ?_, ?_⟩
  · intro x w' hset
    rw [hresult hset]
    exact ⟨fun r hr => (Schema.readAlong_putAlong hpath x).1 hr,
      fun r hr => (Schema.readAlong_putAlong hpath x).2 hr⟩
  · intro m q hq h b hb
    have hpath' : schema.CanReplaceAlong (m :: q) w := hw.canReplaceAlong hq
    refine ⟨fun x w' hset => ?_, (composed_commuteOn ha hb h).at ⟨hpath, hpath'⟩,
      composed_concat_lawfulAt ha hb h hpath hpath',
      composed_concat_lawfulAt hb ha h.symm hpath' hpath⟩
    rw [hresult hset, composed_get hb, composed_get hb]
    exact ⟨(hpath.putAlong hpath' h x).isPath, (Schema.readAlong_putAlong hpath x).1 h⟩

/-! ## A record in a record -/

/-- Addresses have a slot by position, one by name only with a default, and one that is never given. -/
def addressType : RecordType where
  name := "Address"
  slots := [{ name := "city" }, { name := "zip", default := some (.str "0000"), byNameOnly := true },
    { name := "version", default := some (.int 1), settable := false }]

def personType : RecordType where
  name := "Person"
  slots := [{ name := "name" }, { name := "home" }, { name := "age", default := some (.int 0) }]

def people : Schema := [addressType, personType]

def oslo : Value := .record "Address" [("city", .str "Oslo"), ("zip", .str "0000"), ("version", .int 1)]

def alice : Value := .record "Person" [("name", .str "Alice"), ("home", oslo), ("age", .int 30)]

theorem oslo_built : people.Built oslo := by
  refine @Schema.Built.record people addressType [.str "Oslo"] [] oslo rfl (by decide) ?_ ?_ nofun rfl
  · intro s hs v hv
    simp only [addressType, List.mem_cons, List.not_mem_nil, or_false] at hs
    rcases hs with rfl | rfl | rfl
    · exact absurd hv nofun
    · exact Option.some.inj hv ▸ .str "0000"
    · exact Option.some.inj hv ▸ .int 1
  · intro v hv
    exact List.mem_singleton.1 hv ▸ .str "Oslo"

theorem alice_built : people.Built alice := by
  refine @Schema.Built.record people personType [.str "Alice", oslo] [("age", .int 30)] alice rfl
    (by decide) ?_ ?_ ?_ rfl
  · intro s hs v hv
    simp only [personType, List.mem_cons, List.not_mem_nil, or_false] at hs
    rcases hs with rfl | rfl | rfl
    · exact absurd hv nofun
    · exact absurd hv nofun
    · exact Option.some.inj hv ▸ .int 0
  · intro v hv
    simp only [List.mem_cons, List.not_mem_nil, or_false] at hv
    rcases hv with rfl | rfl
    · exact .str "Alice"
    · exact oslo_built
  · intro e he
    exact List.mem_singleton.1 he ▸ .int 30

/-- The city and the zip of the home of a person. -/
theorem paths_lawful_people :
    let city : Bracketing Fault Value Value :=
      .compose (.lens (people.fieldLens "home")) (.lens (people.fieldLens "city"))
    let zip : Bracketing Fault Value Value :=
      .compose (.lens (people.fieldLens "home")) (.lens (people.fieldLens "zip"))
    people.Built alice ∧ people.IsPath ["home", "city"] alice ∧ people.IsPath ["home", "zip"] alice ∧
    city.composed.LawfulAt alice ∧ city.composed.CommuteAt zip.composed alice ∧
    (city.composed.concat zip.composed).LawfulAt alice ∧
    (zip.composed.concat city.composed).LawfulAt alice := by
  intro city zip
  have hcity : people.IsPath ["home", "city"] alice :=
    ⟨"Person", _, personType, oslo, rfl, rfl, by decide, rfl,
      "Address", _, addressType, .str "Oslo", rfl, rfl, by decide, rfl, trivial⟩
  have hzip : people.IsPath ["home", "zip"] alice :=
    ⟨"Person", _, personType, oslo, rfl, rfl, by decide, rfl,
      "Address", _, addressType, .str "0000", rfl, rfl, by decide, rfl, trivial⟩
  have hdiverge : Value.Diverge ["home", "city"] ["home", "zip"] := ⟨by decide, by decide⟩
  obtain ⟨hlawful, -, hindependent⟩ :=
    paths_lawful people alice alice_built "home" ["city"] hcity city rfl
  obtain ⟨-, hcomm, hpair, hpair'⟩ := hindependent "home" ["zip"] hzip hdiverge zip rfl
  exact ⟨alice_built, hcity, hzip, hlawful, hcomm, hpair, hpair'⟩

/-- Setting the city of a home builds the address and the person again. -/
example : (people.pathChain "home" ["city"]).lens.set alice (.str "Bergen") =
    .ok (.record "Person" [("name", .str "Alice"), ("home", .record "Address"
      [("city", .str "Bergen"), ("zip", .str "0000"), ("version", .int 1)]), ("age", .int 30)]) := rfl

end RecordLens
