import RecordLens.Expansion.Imports
import Mathlib.Logic.Basic
/-!
What imports name. The statements at the top level of a module take names from other modules, or import
whole modules. Generated members need some of these; for each need there is a line, and this line is read
as one statement that meets the need.

* `Names`, `NamesModule`: what the statements of a module import, taken together.
* `Need`: what is needed; `Need.MetBy`: the modules that have it.
* `Need.parse_line`: the statement of a line.
* `missingImports_eq`: the lines that a module lacks.
-/
namespace RecordLens

open Code

/-! ## Imports that a module has -/

/-- A statement takes a name from a module and keeps it. -/
inductive TakesName (module name : String) : Stmt → Prop
  | mk {span : Span} {names : List Alias} (h : ⟨name, none⟩ ∈ names) :
      TakesName module name (.importFrom span 0 (some module) names)

/-- A statement imports a module and keeps its name. -/
inductive TakesModule (module : String) : Stmt → Prop
  | mk {span : Span} {names : List Alias} (h : ⟨module, none⟩ ∈ names) :
      TakesModule module (.importModules span names)

/-- Some statement of a module takes a name from another module. -/
def Names (tree : List Stmt) (module name : String) : Prop := ∃ s ∈ tree, TakesName module name s

/-- Some statement of a module imports another module. -/
def NamesModule (tree : List Stmt) (module : String) : Prop := ∃ s ∈ tree, TakesModule module s

variable {tree : List Stmt} {module name : String} {needsFields : Bool}

theorem mem_importedNames : name ∈ importedNames tree module ↔ Names tree module name := by
  unfold importedNames
  rw [List.mem_flatMap]
  refine exists_congr fun s => and_congr_right fun _ => ?_
  constructor
  · intro h
    split at h
    next span m names =>
      split at h
      next hm =>
        obtain ⟨⟨name, asName⟩, ha, rfl⟩ := List.mem_map.1 h
        obtain ⟨ha, hnone⟩ := List.mem_filter.1 ha
        obtain rfl : asName = none := Option.isNone_iff_eq_none.1 hnone
        exact hm ▸ .mk ha
      next => exact absurd h List.not_mem_nil
    next => exact absurd h List.not_mem_nil
  · rintro ⟨h⟩
    show name ∈ if module = module then _ else []
    rw [if_pos rfl]
    exact List.mem_map.2 ⟨_, List.mem_filter.2 ⟨h, rfl⟩, rfl⟩

theorem importsModule_iff : importsModule tree module = true ↔ NamesModule tree module := by
  unfold importsModule
  rw [List.any_eq_true]
  refine exists_congr fun s => and_congr_right fun _ => ?_
  constructor
  · intro h
    split at h
    next span names =>
      obtain ⟨⟨name, asName⟩, ha, h⟩ := List.any_eq_true.1 h
      obtain ⟨hname, hnone⟩ := Bool.and_eq_true_iff.1 h
      obtain rfl : name = module := of_decide_eq_true hname
      obtain rfl : asName = none := Option.isNone_iff_eq_none.1 hnone
      exact .mk ha
    next => exact absurd h Bool.false_ne_true
  · rintro ⟨h⟩
    exact List.any_eq_true.2 ⟨_, h, by simp⟩

/-! ## Imports that are needed -/

/-- What generated members need: a name from the future, the module of record fields, and the names of the
    library. -/
inductive Need
  | future | fields | library
deriving DecidableEq

namespace Need

/-- The line that is put in for a need. -/
def line : Need → String
  | .future => futureImport
  | .fields => fieldsImport
  | .library => runtimeImport

/-- The module of record fields is needed only sometimes. -/
def Needed (needsFields : Bool) : Need → Prop
  | .fields => needsFields = true
  | .future | .library => True

/-- The imports of a module, taken together, name all that is needed. -/
def MetBy (tree : List Stmt) : Need → Prop
  | .future => Names tree futureModule "annotations"
  | .fields => NamesModule tree fieldsModule
  | .library => ∀ name ∈ runtimeNames, Names tree libraryModule name

/-- The statement of the line for a need. -/
def statement (span : Span) : Need → Stmt
  | .future => .importFrom span 0 (some futureModule) [⟨"annotations", none⟩]
  | .fields => .importModules span [⟨fieldsModule, none⟩]
  | .library => .importFrom span 0 (some libraryModule) (runtimeNames.map (⟨·, none⟩))

variable {n k : Need}

theorem line_injective (h : n.line = k.line) : n = k := by
  cases n <;> cases k <;> first | rfl | exact absurd h (by decide)

theorem line_ne_empty (n : Need) : n.line ≠ "" := by
  cases n <;> decide

theorem metBy_of_mem {span : Span} (h : n.statement span ∈ tree) : n.MetBy tree := by
  cases n with
  | future => exact ⟨_, h, .mk (List.mem_singleton_self _)⟩
  | fields => exact ⟨_, h, .mk (List.mem_singleton_self _)⟩
  | library => exact fun name hname => ⟨_, h, .mk (List.mem_map_of_mem hname)⟩

theorem eq_fields_of_takesModule {span : Span} (h : TakesModule module (n.statement span)) :
    n = .fields := by
  cases n with
  | fields => rfl
  | future => nomatch h
  | library => nomatch h

/-! ### Their statements -/

/-- Whether a module is the statement for a need. -/
def isStatement : Need → List Stmt → Bool
  | .future, [.importFrom _ 0 (some m) names] => m = futureModule && names = [⟨"annotations", none⟩]
  | .fields, [.importModules _ names] => names = [⟨fieldsModule, none⟩]
  | .library, [.importFrom _ 0 (some m) names] =>
    m = libraryModule && names = runtimeNames.map (⟨·, none⟩)
  | _, _ => false

theorem exists_of_isStatement (h : n.isStatement tree = true) : ∃ span, tree = [n.statement span] := by
  unfold isStatement at h
  split at h
  next span m names =>
    obtain ⟨hm, hnames⟩ := Bool.and_eq_true_iff.1 h
    exact ⟨span, by rw [of_decide_eq_true hm, of_decide_eq_true hnames]; rfl⟩
  next span names => exact ⟨span, by rw [of_decide_eq_true h]; rfl⟩
  next span m names =>
    obtain ⟨hm, hnames⟩ := Bool.and_eq_true_iff.1 h
    exact ⟨span, by rw [of_decide_eq_true hm, of_decide_eq_true hnames]; rfl⟩
  next => exact absurd h Bool.false_ne_true

/-- **The line for a need is read as its statement.** -/
theorem parse_line (n : Need) : ∃ span, Module.parse n.line = .ok [n.statement span] := by
  have hread : (Module.parse n.line).toOption.any n.isStatement = true := by
    cases n <;> decide +kernel
  cases hparse : Module.parse n.line with
  | error fault =>
    rw [hparse] at hread
    exact absurd hread Bool.false_ne_true
  | ok tree =>
    rw [hparse] at hread
    obtain ⟨span, rfl⟩ := exists_of_isStatement hread
    exact ⟨span, rfl⟩

end Need

/-! ## Imports that are missing -/

theorem all_runtimeNames_iff : runtimeNames.all (importedNames tree libraryModule).contains = true ↔
    Need.library.MetBy tree := by
  rw [List.all_eq_true]
  exact forall₂_congr fun _ _ => List.contains_iff_mem.trans mem_importedNames

open Classical in
/-- **A module lacks the line of every need that it does not meet.** -/
theorem missingImports_eq (tree : List Stmt) (needsFields : Bool) : missingImports tree needsFields =
    ([Need.future, .fields, .library].filter fun n => n.Needed needsFields ∧ ¬n.MetBy tree).map
      Need.line := by
  have hfuture : (importedNames tree futureModule).contains "annotations" = true ↔
      Need.future.MetBy tree := List.contains_iff_mem.trans mem_importedNames
  have hfields : (needsFields && !importsModule tree fieldsModule) = true ↔
      Need.fields.Needed needsFields ∧ ¬Need.fields.MetBy tree := by
    rw [Bool.and_eq_true_iff, Bool.not_eq_true', ← Bool.not_eq_true, importsModule_iff]
    rfl
  have hfirst : Need.future.Needed needsFields := trivial
  have hlast : Need.library.Needed needsFields := trivial
  unfold missingImports
  simp only [hfuture, hfields, all_runtimeNames_iff]
  by_cases hmet : Need.future.MetBy tree <;>
    by_cases hlack : Need.fields.Needed needsFields ∧ ¬Need.fields.MetBy tree <;>
      by_cases hall : Need.library.MetBy tree <;>
        simp [hmet, hlack, hall, hfirst, hlast, Need.line]

theorem mem_missingImports {line : String} : line ∈ missingImports tree needsFields ↔
    ∃ n : Need, n.line = line ∧ n.Needed needsFields ∧ ¬n.MetBy tree := by
  classical
  rw [missingImports_eq, List.mem_map]
  refine exists_congr fun n => ?_
  have hall : n ∈ [Need.future, .fields, .library] := by cases n <;> decide
  rw [List.mem_filter, decide_eq_true_iff, and_iff_right hall, and_comm]

theorem line_mem_missingImports {n : Need} : n.line ∈ missingImports tree needsFields ↔
    n.Needed needsFields ∧ ¬n.MetBy tree := by
  rw [mem_missingImports]
  exact ⟨fun ⟨_, hline, h⟩ => Need.line_injective hline ▸ h, fun h => ⟨n, rfl, h⟩⟩

/-- Every line is missing at most once, and the lines come in one order. -/
theorem missingImports_sublist (tree : List Stmt) (needsFields : Bool) :
    (missingImports tree needsFields).Sublist [futureImport, fieldsImport, runtimeImport] := by
  classical
  rw [missingImports_eq]
  exact List.Sublist.map Need.line List.filter_sublist

theorem missingImports_nodup (tree : List Stmt) (needsFields : Bool) :
    (missingImports tree needsFields).Nodup :=
  List.Nodup.sublist (missingImports_sublist tree needsFields) (by decide)

end RecordLens
