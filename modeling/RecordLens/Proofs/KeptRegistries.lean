import RecordLens.Optic.Value
import RecordLens.Proofs.OrderedEntries
import RecordLens.Proofs.Outcome
/-!
Registries that nothing changes. On a workbench, what a registry holds has a place of its own: the caller
can write in the places of its mappings only, and no registry holds anything there. Every action keeps
this, and so a registry answers after any run as it did when it was made.

* `Workbench.Step`, `Workbench.step_of_act`: what an action can do to a workbench.
* `Workbench.Apart`: no mapping of the caller is what a registry holds; `Workbench.Apart.step` keeps it.
* `Workbench.registry_of_run`: a registry behind a run of actions.
* `registry_keeps_entries`: what registries answer, and that they go on doing so.
-/
namespace RecordLens

variable {α : Type}

namespace Workbench

variable {w w' : Workbench α}

theorem thing_eq_ok_iff {β : Type} {things : List β} {place : Nat} {x : β} :
    thing things place = .ok x ↔ things[place]? = some x := by
  rw [thing]
  cases things[place]? with
  | none => exact iff_of_false nofun nofun
  | some y => exact ⟨fun h => congrArg some (Except.ok.inj h), fun h => congrArg _ (Option.some.inj h)⟩

theorem registry_eq_ok_iff {n : Nat} {r : Registry α} : w.registry n = .ok r ↔
    ∃ holder, w.registries[n]? = some holder ∧ holder.owner = r.owner ∧
      w.contents[holder.place]? = some r.entries := by
  simp only [registry, bind_eq_ok, thing_eq_ok_iff]
  constructor
  · rintro ⟨holder, hholder, c, hc, h⟩
    obtain rfl := Except.ok.inj h
    exact ⟨holder, hholder, rfl, hc⟩
  · rintro ⟨holder, hholder, howner, hc⟩
    refine ⟨holder, hholder, r.entries, hc, ?_⟩
    rw [howner]
    rfl

/-! ## One action -/

/-- What an action can do to a workbench: add to it, change a list, or write in a place of a mapping. -/
inductive Step (w : Workbench α) : Workbench α → Prop
  | same : Step w w
  | mapping (c : Contents α) : Step w (w.addMapping c)
  | registry (r : Registry α) : Step w (w.addRegistry r)
  | written {place : Nat} (hplace : place ∈ w.mappings) (c : Contents α) : Step w (w.write place c)
  | lists (lists : List (List FieldRef)) : Step w { w with lists }

theorem step_of_change {m : Nat} {f : Contents α → Except Fault (Contents α)}
    (h : w.change m f = .ok w') : w.Step w' := by
  obtain ⟨place, hplace, h⟩ := bind_eq_ok.1 h
  obtain ⟨c, -, h⟩ := bind_eq_ok.1 h
  obtain ⟨new, -, h⟩ := bind_eq_ok.1 h
  obtain rfl := Except.ok.inj h
  exact .written (List.mem_of_getElem? (thing_eq_ok_iff.1 hplace)) new

theorem step_of_act {a : Action α} (h : w.act a = .ok w') : w.Step w' := by
  cases a with
  | makeMapping given => exact Except.ok.inj h ▸ .mapping _
  | put m entry => exact step_of_change h
  | remove m ref => exact step_of_change h
  | clear m => exact step_of_change h
  | makeRegistry owner source =>
    obtain ⟨c, -, h⟩ := bind_eq_ok.1 h
    exact Except.ok.inj h ▸ .registry _
  | assign r ref lens =>
    -- a view refuses every entry
    obtain ⟨_, -, h⟩ := bind_eq_ok.1 h
    obtain ⟨_, -, h⟩ := bind_eq_ok.1 h
    obtain ⟨_, hassign, -⟩ := bind_eq_ok.1 h
    exact absurd hassign error_ne_ok
  | takeRefs r =>
    obtain ⟨_, -, h⟩ := bind_eq_ok.1 h
    exact Except.ok.inj h ▸ .lists _
  | changeList l items =>
    obtain ⟨_, -, h⟩ := bind_eq_ok.1 h
    exact Except.ok.inj h ▸ .lists _
  | ask r q =>
    obtain ⟨_, -, h⟩ := bind_eq_ok.1 h
    exact Except.ok.inj h ▸ .same

theorem step_after (w : Workbench α) (a : Action α) : w.Step (w.after a) := by
  rw [after]
  split
  next h => exact step_of_act h
  next => exact .same

/-! ## Places -/

/-- Mappings and registries hold something, and no mapping of the caller is what a registry holds. -/
structure Apart (w : Workbench α) : Prop where
  mappings : ∀ place ∈ w.mappings, place < w.contents.length
  registries : ∀ holder ∈ w.registries,
    holder.place < w.contents.length ∧ holder.place ∉ w.mappings

theorem Apart.empty : (Workbench.empty : Workbench α).Apart := ⟨nofun, nofun⟩

/-- **Every action keeps mappings and registries apart.** What is added goes to a new place. -/
theorem Apart.step (h : w.Apart) (hs : w.Step w') : w'.Apart := by
  cases hs with
  | same | lists => exact ⟨h.mappings, h.registries⟩
  | mapping c =>
    constructor
    · simp only [addMapping, List.length_append, List.length_singleton, List.mem_append,
        List.mem_singleton]
      rintro place (hold | rfl)
      · exact Nat.lt_succ_of_lt (h.mappings place hold)
      · exact Nat.lt_succ_self _
    · simp only [addMapping, List.length_append, List.length_singleton, List.mem_append,
        List.mem_singleton, not_or]
      intro holder hholder
      obtain ⟨hlt, hnot⟩ := h.registries holder hholder
      exact ⟨Nat.lt_succ_of_lt hlt, hnot, Nat.ne_of_lt hlt⟩
  | registry r =>
    constructor
    · simp only [addRegistry, List.length_append, List.length_singleton]
      exact fun place hplace => Nat.lt_succ_of_lt (h.mappings place hplace)
    · simp only [addRegistry, List.length_append, List.length_singleton, List.mem_append,
        List.mem_singleton]
      rintro holder (hold | rfl)
      · exact (h.registries holder hold).imp_left Nat.lt_succ_of_lt
      · exact ⟨Nat.lt_succ_self _, fun hmem => Nat.lt_irrefl _ (h.mappings _ hmem)⟩
  | written hplace c =>
    constructor
    · simpa only [write, List.length_set] using h.mappings
    · simpa only [write, List.length_set] using h.registries

/-- **No action changes a registry that there is.** -/
theorem registry_of_step (h : w.Apart) (hs : w.Step w') {n : Nat} {r : Registry α}
    (hr : w.registry n = .ok r) : w'.registry n = .ok r := by
  obtain ⟨holder, hholder, howner, hc⟩ := registry_eq_ok_iff.1 hr
  obtain ⟨hlt, hapart⟩ := h.registries holder (List.mem_of_getElem? hholder)
  refine registry_eq_ok_iff.2 ?_
  cases hs with
  | same | lists => exact ⟨holder, hholder, howner, hc⟩
  | mapping c => exact ⟨holder, hholder, howner, (List.getElem?_append_left hlt).trans hc⟩
  | registry new =>
    have hn : n < w.registries.length := (List.getElem?_eq_some_iff.1 hholder).1
    exact ⟨holder, (List.getElem?_append_left hn).trans hholder, howner,
      (List.getElem?_append_left hlt).trans hc⟩
  | written hplace c =>
    have hne := ne_of_mem_of_not_mem hplace hapart
    exact ⟨holder, hholder, howner, (List.getElem?_set_ne hne).trans hc⟩

/-! ## Runs -/

theorem Apart.run (h : w.Apart) (actions : List (Action α)) : (w.run actions).Apart := by
  induction actions generalizing w with
  | nil => exact h
  | cons a actions ih => exact ih (h.step (w.step_after a))

/-- A registry is behind any run what it was before. -/
theorem registry_of_run (h : w.Apart) {n : Nat} {r : Registry α} (hr : w.registry n = .ok r)
    (actions : List (Action α)) : (w.run actions).registry n = .ok r := by
  induction actions generalizing w with
  | nil => exact hr
  | cons a actions ih =>
    exact ih (h.step (w.step_after a)) (registry_of_step h (w.step_after a) hr)

theorem registry_after_makeRegistry {owner : String} {source : Source} {c : Contents α}
    (h : w.read source = .ok c) :
    (w.after (.makeRegistry owner source)).registry w.registries.length =
      .ok (.ofEntries owner c) := by
  have hact : w.act (.makeRegistry owner source) = .ok (w.addRegistry (.ofEntries owner c)) :=
    bind_eq_ok.2 ⟨c, h, rfl⟩
  rw [after, hact, registry_eq_ok_iff]
  exact ⟨_, List.getElem?_concat_length, rfl, List.getElem?_concat_length⟩

end Workbench

open Workbench in
/-- **A registry is a map of its entries, and nothing changes it.** Of entries with repetitions, given in a
    mapping, a registry finds the last lens of each reference and refuses the references that no entry
    has; it lists each reference once, as they first come. Whatever else is on the workbench, and whatever
    is done after the registry was made, to the mapping, to lists taken from the registry or through its
    view, it answers just so; its view refuses every entry. -/
theorem registry_keeps_entries (owner : String) (given : List (FieldRef × α)) :
    (Registry.ofEntries owner given).IsMapOf owner given ∧
    ∀ (before : List (Action α)) (source : Source),
      (empty.run before).read source = .ok (Contents.ofEntries given) →
      ∀ later : List (Action α),
        let w := empty.run (before ++ .makeRegistry owner source :: later)
        let r := (empty.run before).registries.length
        (∀ q, w.ask r q = (Registry.ofEntries owner given).answer q) ∧
        ∀ ref lens, w.act (.assign r ref lens) = .error .wrongKind := by
  refine ⟨Registry.isMapOf_ofEntries owner given, ?_⟩
  intro before source hread later w r
  set start := (empty : Workbench α).run before with hstart
  have hw : w = (start.after (.makeRegistry owner source)).run later := by
    rw [hstart]
    exact List.foldl_append
  have hstarted : start.Apart := Apart.empty.run before
  have hsame : Registry.ofEntries owner (Contents.ofEntries given) = .ofEntries owner given :=
    congrArg (Registry.mk owner) (Contents.ofEntries_ofEntries given)
  have hregistry : w.registry r = .ok (.ofEntries owner given) := by
    rw [hw, ← hsame]
    exact registry_of_run (hstarted.step (start.step_after _)) (registry_after_makeRegistry hread) later
  refine ⟨fun q => ?_, fun ref lens => ?_⟩
  · rw [ask, hregistry]
    rfl
  · obtain ⟨holder, hholder, -⟩ := registry_eq_ok_iff.1 hregistry
    rw [act, thing_eq_ok_iff.2 hholder, hregistry]
    rfl

/-- The references of a point, the first one with two lenses. -/
def pointEntries : List (FieldRef × Lens Fault Value Value) :=
  [(⟨"Point", "x", ""⟩, Value.item 0), (⟨"Point", "y", ""⟩, Value.item 1),
   (⟨"Point", "x", ""⟩, Value.item 2)]

open Workbench in
/-- The mapping is cleared and filled again, a list of the references is emptied, and an entry is written
    through the view. -/
theorem registry_keeps_entries_points :
    let before : List (Action (Lens Fault Value Value)) := [.makeMapping pointEntries]
    let later : List (Action (Lens Fault Value Value)) :=
      [.clear 0, .put 0 (⟨"Point", "z", ""⟩, Value.item 3), .takeRefs 0, .changeList 0 [],
       .assign 0 ⟨"Point", "y", ""⟩ (Value.item 4)]
    let w := empty.run (before ++ .makeRegistry "Point" (.mapping 0) :: later)
    (empty.run before).read (.mapping 0) = .ok (Contents.ofEntries pointEntries) ∧
    w.ask 0 (.lookup ⟨"Point", "x", ""⟩) = .ok (.lens (Value.item 2)) ∧
    w.ask 0 .refs = .ok (.refs [⟨"Point", "x", ""⟩, ⟨"Point", "y", ""⟩]) ∧
    w.ask 0 (.lookup ⟨"Point", "z", ""⟩) =
      .error (.unknownField "Point" ⟨"Point", "z", ""⟩) := by
  intro before later w
  have hread : (empty.run before).read (.mapping 0) = .ok (Contents.ofEntries pointEntries) := rfl
  obtain ⟨hanswers, -⟩ :=
    (registry_keeps_entries "Point" pointEntries).2 before (.mapping 0) hread later
  exact ⟨hread, (hanswers _).trans rfl, (hanswers _).trans rfl, (hanswers _).trans rfl⟩

end RecordLens
