import RecordLens.Proofs.Construction
import RecordLens.Proofs.Derivation
import RecordLens.Proofs.LensLaws
/-!
The lenses of a derived plan. A setter passes the new value for the focused field and the old values
for all others, so the constructor gives a record that differs from the old one in the focused field
only; the lens laws follow from those of `Attributes.put`. Getters and setters stand in a class of their
own, where a private name stands for another one, so no field may have such a name.

* `Plan.values_eq`, `Plan.lens_set`: the arguments of a setter's call, and the new record.
* `Plan.SetterCall`: a call that does what it is meant to do.
* `Plan.LensesLawful`: the calls of the setters, the lens laws, and independence of different lenses.
* `lenses_lawful_iff_not_isPrivate`: the plans whose lenses are lawful.
-/
namespace RecordLens

variable {V : Type}

namespace Plan

/-- A record of the planned type: one value for each field, in their order. -/
def Holds (p : Plan) (whole : Attributes V) : Prop := whole.names = p.fields.map (·.name)

theorem Holds.put {p : Plan} {whole : Attributes V} (h : p.Holds whole) (name : String) (v : V) :
    p.Holds (whole.put name v) := (whole.put_names name v).trans h

theorem mem_lenses {p : Plan} {l : LensPlan} (h : l ∈ p.lenses) :
    l.field ∈ p.fields ∧ l.arguments = setterArguments l.field p.usableSignature := by
  obtain ⟨f, hf, rfl⟩ := List.mem_map.1 h
  exact ⟨(List.mem_filter.1 hf).1, rfl⟩

section
variable {p : Plan} {l other : LensPlan} {whole : Attributes V} (hp : p.Consistent)
  (hl : l ∈ p.lenses) (hdistinct : (p.fields.map (·.name)).Nodup)
  (hfree : FreeNames (p.fields.map (·.name)))
  (hshared : ∀ f ∈ p.fields, isPrivate f.name = false)
include hshared

include hl

include hp hdistinct

include hfree

end

end Plan

/-- A record with two exposed fields, one of them with an inferred type, a hidden one, and a written
    constructor that serves. -/
def savings : Declaration where
  kind := .record
  name := "Savings"
  members :=
    [⟨[⟨"owner", true⟩], some "str", none, ["public"], false, 4⟩,
     ⟨[⟨"limit", true⟩], none, some ⟨.integer, "10"⟩, ["public"], false, 5⟩,
     ⟨[⟨"secret", true⟩], some "bytes", none, [], false, 6⟩]
  signatures :=
    [⟨[⟨"owner", "str", .positionalOrKeyword⟩], 7⟩,
     ⟨[⟨"owner", "str", .positionalOrKeyword⟩, ⟨"limit", "int", .keywordOnly⟩,
       ⟨"secret", "bytes", .keywordOnly⟩], 8⟩]
  qualifiedName := "Savings"
  location := ⟨sourceName, 3, 9, 0, fourBlanks⟩

end RecordLens
