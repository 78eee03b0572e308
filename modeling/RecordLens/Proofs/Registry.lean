import Mathlib.Data.List.Nodup
import RecordLens.Optic.Registry
/-!
What a registry knows. Entries with different references are kept as they are given; a reference is
found if an entry has it, and asking for any other one fails with the owner and the reference.

* `Registry.ofEntries_entries`: the entries of a registry of different references.
* `Registry.lookup_of_mem`, `Registry.lookup_of_not_mem`: what is found, and what is not.
-/
namespace RecordLens

variable {α : Type}

theorem placeEntry_of_not_mem {entry : FieldRef × α} {entries : List (FieldRef × α)}
    (h : entry.1 ∉ entries.map (·.1)) : placeEntry entry entries = entries ++ [entry] := by
  induction entries with
  | nil => rfl
  | cons e es ih =>
    rw [List.map_cons, List.mem_cons, not_or] at h
    rw [placeEntry, if_neg (Ne.symm h.1), ih h.2, List.cons_append]

theorem foldl_placeEntry (given : List (FieldRef × α)) : ∀ entries : List (FieldRef × α),
    ((entries ++ given).map (·.1)).Nodup →
    given.foldl (fun entries entry => placeEntry entry entries) entries = entries ++ given := by
  induction given with
  | nil =>
    intro entries _
    rw [List.append_nil]
    rfl
  | cons entry given ih =>
    intro entries hdistinct
    have happ : entries ++ entry :: given = entries ++ [entry] ++ given := by
      rw [List.append_assoc, List.singleton_append]
    have hnew : entry.1 ∉ entries.map (·.1) := by
      rw [List.map_append, List.map_cons, List.nodup_append] at hdistinct
      exact fun hold => hdistinct.2.2 _ hold _ List.mem_cons_self rfl
    rw [List.foldl_cons, placeEntry_of_not_mem hnew, happ]
    exact ih _ (happ ▸ hdistinct)

namespace Registry

/-- Entries with different references are kept as they are. -/
theorem ofEntries_entries (owner : String) {given : List (FieldRef × α)}
    (h : (given.map (·.1)).Nodup) : (ofEntries owner given).entries = given :=
  foldl_placeEntry given [] h

variable {r : Registry α}

/-- A reference with an entry is found, where no other entry has it. -/
theorem lookup_of_mem (hdistinct : r.refs.Nodup) {ref : FieldRef} {lens : α}
    (h : (ref, lens) ∈ r.entries) : r.lookup ref = .ok lens := by
  have hfind : r.entries.find? (·.1 = ref) = some (ref, lens) := by
    cases hfound : r.entries.find? (·.1 = ref) with
    | none => exact absurd (decide_eq_true rfl) (List.find?_eq_none.1 hfound _ h)
    | some e =>
      have href : e.1 = ref := by simpa using List.find?_some hfound
      rw [List.inj_on_of_nodup_map hdistinct (List.mem_of_find?_eq_some hfound) h href]
  rw [lookup, find?, hfind]
  rfl

theorem find?_of_not_mem {ref : FieldRef} (h : ref ∉ r.refs) : r.find? ref = none := by
  rw [find?, Option.map_eq_none_iff, List.find?_eq_none]
  intro e he hhas
  exact h (of_decide_eq_true hhas ▸ List.mem_map_of_mem he)

/-- Asking for a reference without an entry fails, and the fault tells who was asked for what. -/
theorem lookup_of_not_mem {ref : FieldRef} (h : ref ∉ r.refs) :
    r.lookup ref = .error (.unknownField r.owner ref) := by
  rw [lookup, find?_of_not_mem h]

theorem contains_of_not_mem {ref : FieldRef} (h : ref ∉ r.refs) : r.contains ref = false := by
  rw [contains, find?_of_not_mem h]
  rfl

end Registry
end RecordLens
