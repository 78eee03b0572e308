import Mathlib.Data.Finset.Card
import RecordLens.Optic.Workbench
import RecordLens.Proofs.Registry
/-!
Registries of entries with repetitions. Of several entries with one reference the first one gives the place
and the last one the lens. So a registry lists each reference once, as they first come, and finds the
lens that comes last.

* `placeEntry_keys`, `Contents.keys_concat`: one more entry.
* `Contents.find?_ofEntries`: looking up is looking from the end.
* `Contents.pairwise_keys`: the order of the references.
* `Registry.IsMapOf`, `Registry.isMapOf_ofEntries`: what a registry of some entries answers.
-/
namespace RecordLens

variable {α : Type}

/-- Two references are to one field: of one owner, by one name, in one module. -/
def FieldRef.Same (a b : FieldRef) : Prop :=
  a.owner = b.owner ∧ a.name = b.name ∧ a.moduleName = b.moduleName

theorem FieldRef.same_iff_eq {a b : FieldRef} : a.Same b ↔ a = b := by
  cases a
  cases b
  simp only [Same, FieldRef.mk.injEq]

/-- The lens of the last one of the entries that have a reference. -/
def LastOf (given : List (FieldRef × α)) (ref : FieldRef) (lens : α) : Prop :=
  ∃ front e back, given = front ++ e :: back ∧ e.1.Same ref ∧ e.2 = lens ∧ ∀ x ∈ back, ¬x.1.Same ref

/-! ## One entry -/

/-- The references of contents are kept; a new one goes behind them. -/
theorem placeEntry_keys (entry : FieldRef × α) (c : Contents α) :
    (placeEntry entry c).map (·.1) =
      if entry.1 ∈ c.map (·.1) then c.map (·.1) else c.map (·.1) ++ [entry.1] := by
  induction c with
  | nil => rfl
  | cons e c ih =>
    rw [placeEntry]
    by_cases h : e.1 = entry.1
    · simp [h]
    · rw [if_neg h, List.map_cons, ih]
      by_cases hc : entry.1 ∈ c.map (·.1)
      · rw [if_pos hc, List.map_cons, if_pos (List.mem_cons_of_mem _ hc)]
      · rw [if_neg hc, List.map_cons, if_neg (List.not_mem_cons_of_ne_of_not_mem (Ne.symm h) hc),
          List.cons_append]

/-- A placed entry is found under its reference, and the others as before. -/
theorem find?_placeEntry (entry : FieldRef × α) (c : Contents α) (ref : FieldRef) :
    ((placeEntry entry c).find? (·.1 = ref)).map (·.2) =
      if entry.1 = ref then some entry.2 else (c.find? (·.1 = ref)).map (·.2) := by
  induction c with
  | nil => by_cases h : entry.1 = ref <;> simp [placeEntry, h]
  | cons e c ih =>
    rw [placeEntry]
    by_cases h : e.1 = entry.1
    · by_cases href : entry.1 = ref <;> simp [h, href]
    · rw [if_neg h, List.find?_cons, List.find?_cons]
      by_cases href : e.1 = ref
      · have hne : ¬entry.1 = ref := fun heq => h (href.trans heq.symm)
        simp [href, hne]
      · simp only [href, decide_false]
        exact ih

namespace Contents

theorem ofEntries_concat (given : List (FieldRef × α)) (e : FieldRef × α) :
    ofEntries (given ++ [e]) = placeEntry e (ofEntries given) := List.foldl_concat _ _ _ _

/-! ## Looking up -/

/-- **The last entry counts**: looking up is looking from the end. -/
theorem find?_ofEntries (given : List (FieldRef × α)) (ref : FieldRef) :
    ((ofEntries given).find? (·.1 = ref)).map (·.2) =
      (given.reverse.find? (·.1 = ref)).map (·.2) := by
  induction given using List.reverseRecOn with
  | nil => rfl
  | append_singleton given e ih =>
    rw [ofEntries_concat, find?_placeEntry, ih, List.reverse_append, List.reverse_singleton,
      List.singleton_append, List.find?_cons]
    by_cases h : e.1 = ref <;> simp [h]

theorem lastOf_iff {given : List (FieldRef × α)} {ref : FieldRef} {lens : α} :
    (given.reverse.find? (·.1 = ref)).map (·.2) = some lens ↔ LastOf given ref lens := by
  simp only [Option.map_eq_some_iff, List.find?_eq_some_iff_append, LastOf, FieldRef.same_iff_eq]
  constructor
  · rintro ⟨e, ⟨href, back, front, hsplit, hback⟩, hlens⟩
    refine ⟨front.reverse, e, back.reverse, ?_, of_decide_eq_true href, hlens, ?_⟩
    · rw [← List.reverse_reverse given, hsplit]
      simp
    · simpa using hback
  · rintro ⟨front, e, back, rfl, href, hlens, hback⟩
    refine ⟨e, ⟨decide_eq_true href, back.reverse, front.reverse, by simp, ?_⟩, hlens⟩
    simpa using hback

/-! ## The references -/

theorem keys_concat (given : List (FieldRef × α)) (e : FieldRef × α) :
    (ofEntries (given ++ [e])).map (·.1) =
      if e.1 ∈ (ofEntries given).map (·.1) then (ofEntries given).map (·.1)
      else (ofEntries given).map (·.1) ++ [e.1] := by
  rw [ofEntries_concat, placeEntry_keys]

theorem mem_keys {given : List (FieldRef × α)} {ref : FieldRef} :
    ref ∈ (ofEntries given).map (·.1) ↔ ref ∈ given.map (·.1) := by
  induction given using List.reverseRecOn with
  | nil => rfl
  | append_singleton given e ih =>
    rw [keys_concat, List.map_append, List.map_singleton, List.mem_append, ← ih, List.mem_singleton]
    split
    next hold =>
      refine ⟨.inl, ?_⟩
      rintro (h | rfl)
      · exact h
      · exact hold
    next => rw [List.mem_append, List.mem_singleton]

/-- **The references are listed as they first come.** -/
theorem pairwise_keys (given : List (FieldRef × α)) :
    ((ofEntries given).map (·.1)).Pairwise fun a b =>
      (given.map (·.1)).idxOf a < (given.map (·.1)).idxOf b := by
  induction given using List.reverseRecOn with
  | nil => exact .nil
  | append_singleton given e ih =>
    have hfirst : ∀ a ∈ (ofEntries given).map (·.1),
        ((given ++ [e]).map (·.1)).idxOf a = (given.map (·.1)).idxOf a := by
      intro a ha
      rw [List.map_append, List.idxOf_append_of_mem (mem_keys.1 ha)]
    have hold : ((ofEntries given).map (·.1)).Pairwise fun a b =>
        ((given ++ [e]).map (·.1)).idxOf a < ((given ++ [e]).map (·.1)).idxOf b := by
      refine ih.imp_of_mem fun {a b} ha hb hlt => ?_
      rw [hfirst a ha, hfirst b hb]
      exact hlt
    rw [keys_concat]
    split
    next => exact hold
    next hnew =>
      refine List.pairwise_append.2 ⟨hold, List.pairwise_singleton _ _, fun a ha b hb => ?_⟩
      -- the new reference comes behind all entries before it
      obtain rfl := List.mem_singleton.1 hb
      have hnone : e.1 ∉ given.map (·.1) := mt mem_keys.2 hnew
      rw [hfirst a ha, List.map_append, List.idxOf_append_of_notMem hnone, List.map_singleton,
        List.idxOf_cons_self]
      exact List.idxOf_lt_length_of_mem (mem_keys.1 ha)

theorem nodup_keys (given : List (FieldRef × α)) : ((ofEntries given).map (·.1)).Nodup :=
  (pairwise_keys given).imp fun hlt heq => by simp [heq] at hlt

theorem ofEntries_ofEntries (given : List (FieldRef × α)) :
    ofEntries (ofEntries given) = ofEntries given :=
  Registry.ofEntries_entries "" (nodup_keys given)

end Contents

/-! ## Registries -/

namespace Registry

theorem lookup_eq_ok_iff {r : Registry α} {ref : FieldRef} {lens : α} :
    r.lookup ref = .ok lens ↔ r.find? ref = some lens := by
  rw [lookup]
  cases r.find? ref with
  | none => simp
  | some l => exact ⟨fun h => congrArg some (Except.ok.inj h), fun h => congrArg _ (Option.some.inj h)⟩

theorem lookup_eq_error_iff {r : Registry α} {ref : FieldRef} {fault : Fault} :
    r.lookup ref = .error fault ↔ fault = .unknownField r.owner ref ∧ r.find? ref = none := by
  rw [lookup]
  cases r.find? ref with
  | none => exact ⟨fun h => ⟨(Except.error.inj h).symm, rfl⟩, fun h => congrArg _ h.1.symm⟩
  | some l => simp

/-- What a registry of an owner answers if it is a map of some entries. -/
structure IsMapOf (r : Registry α) (owner : String) (given : List (FieldRef × α)) : Prop where
  owned : r.owner = owner
  /-- The lens of a reference is that of its last entry. -/
  found : ∀ ref lens, r.lookup ref = .ok lens ↔ LastOf given ref lens
  /-- Asking for a reference fails if and only if no entry has it, with the owner and the reference. -/
  refused : ∀ ref fault, r.lookup ref = .error fault ↔
    fault = .unknownField owner ref ∧ ∀ e ∈ given, ¬e.1.Same ref
  contained : ∀ ref, r.contains ref = false ↔ ∀ e ∈ given, ¬e.1.Same ref
  /-- The references are listed once each, as they first come. -/
  listed : ∀ ref, ref ∈ r.refs ↔ ∃ e ∈ given, e.1.Same ref
  order : r.refs.Pairwise fun a b => (given.map (·.1)).idxOf a < (given.map (·.1)).idxOf b
  entries : r.entries.map (·.1) = r.refs ∧ ∀ e ∈ r.entries, LastOf given e.1 e.2
  size : r.size = r.refs.length ∧ r.size = (given.map (·.1)).toFinset.card

/-- **A registry is a map of the entries that it is made of.** -/
theorem isMapOf_ofEntries (owner : String) (given : List (FieldRef × α)) :
    (ofEntries owner given).IsMapOf owner given := by
  have hfind (ref : FieldRef) : (ofEntries owner given).find? ref =
      (given.reverse.find? (·.1 = ref)).map (·.2) := Contents.find?_ofEntries given ref
  have hfound (ref : FieldRef) (lens : α) :
      (ofEntries owner given).lookup ref = .ok lens ↔ LastOf given ref lens := by
    rw [lookup_eq_ok_iff, hfind, Contents.lastOf_iff]
  have hnone (ref : FieldRef) :
      (ofEntries owner given).find? ref = none ↔ ∀ e ∈ given, ¬e.1.Same ref := by
    simp only [hfind, Option.map_eq_none_iff, List.find?_eq_none, List.mem_reverse, decide_eq_true_iff,
      FieldRef.same_iff_eq]
  have hnodup : (ofEntries owner given).refs.Nodup := Contents.nodup_keys given
  have hmem (ref : FieldRef) : ref ∈ (ofEntries owner given).refs ↔ ref ∈ given.map (·.1) :=
    Contents.mem_keys
  refine ⟨rfl, hfound, ?_, ?_, ?_, Contents.pairwise_keys given, ⟨rfl, ?_⟩, ?_, ?_⟩
  · intro ref fault
    rw [lookup_eq_error_iff, hnone]
    rfl
  · intro ref
    rw [contains, Option.isSome_eq_false_iff, Option.isNone_iff_eq_none, hnone]
  · intro ref
    simp only [hmem, List.mem_map, FieldRef.same_iff_eq]
  · exact fun e he => (hfound e.1 e.2).1 (lookup_of_mem hnodup he)
  · rw [size, refs, List.length_map]
  · have hsame : (given.map (·.1)).toFinset = (ofEntries owner given).refs.toFinset := by
      ext ref
      rw [List.mem_toFinset, List.mem_toFinset, hmem]
    rw [hsame, List.toFinset_card_of_nodup hnodup, size, refs, List.length_map]

end Registry
end RecordLens
