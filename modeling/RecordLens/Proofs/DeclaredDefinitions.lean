import RecordLens.Declaration.FromCode
import Mathlib.Logic.Basic
/-!
Which definitions of a module are declared. A definition is declared by a decorator, and looked for only in
the bodies of classes. So the declared definitions are the decorated ones that have classes around them and
nothing else, in the order of their places.

* `AsksForLenses`: the decorator of a declared definition.
* `Occurs`: statements at their places in a module, however deep; `Reached`: those that are declared.
* `declaredFrom`: the places of declared definitions; `mem_declaredFrom_iff_reached`: all of them are there,
  and `declaredFrom_sorted`: in their order.
* `markedDefinitions_eq`: what is found in a module; `forall_marked`: what is known of it.
-/
namespace RecordLens

open Code

/-! ## Decorators -/

/-- A name, or a path of names, whose last part is `last`. -/
inductive EndsIn (last : String) : Expr → Prop
  | name {span : Span} : EndsIn last (.name span last)
  | attribute {span : Span} {value : Expr} : EndsIn last (.attribute span value last)

/-- An expression, or a subscript of it. -/
inductive Subscripted (P : Expr → Prop) : Expr → Prop
  | bare {e : Expr} (h : P e) : Subscripted P e
  | subscript {span : Span} {value index : Expr} (h : P value) :
      Subscripted P (.subscript span value index)

/-- An expression, or a call of it. -/
inductive Called (P : Expr → Prop) : Expr → Prop
  | bare {e : Expr} (h : P e) : Called P e
  | call {span : Span} {func : Expr} {args : List Expr} {keywords : List Keyword} (h : P func) :
      Called P (.call span func args keywords)

/-- A decorator that asks for lenses. It may be called, and what is called may be subscripted. -/
def AsksForLenses : Expr → Prop := Called (Subscripted (EndsIn "autolens"))

theorem tail?_eq_some_iff {e : Expr} {last : String} :
    e.tail? = some last ↔ Subscripted (EndsIn last) e := by
  constructor
  · intro h
    unfold Expr.tail? at h
    split at h
    · exact Option.some.inj h ▸ .subscript .name
    · exact Option.some.inj h ▸ .subscript .attribute
    · exact Option.some.inj h ▸ .bare .name
    · exact Option.some.inj h ▸ .bare .attribute
    · exact absurd h nofun
  · rintro ((_ | _) | (_ | _)) <;> rfl

theorem isMark_iff {e : Expr} : isMark e = true ↔ AsksForLenses e := by
  constructor
  · intro h
    unfold isMark at h
    split at h
    · exact .call (tail?_eq_some_iff.1 (of_decide_eq_true h))
    · exact .bare (tail?_eq_some_iff.1 (of_decide_eq_true h))
  · intro h
    cases h with
    | call h => exact decide_eq_true (tail?_eq_some_iff.2 h)
    | bare h =>
      have htail := tail?_eq_some_iff.2 h
      unfold isMark
      split
      · exact absurd htail nofun
      · exact decide_eq_true htail

/-! ## Definitions -/

/-- A class, or a function, that a decorator declares. -/
inductive Declares : Stmt → Prop
  | classDef {span : Span} {name : String} {decorators bases : List Expr} {body : List Stmt} {e : Expr}
      (he : e ∈ decorators) (h : AsksForLenses e) : Declares (.classDef span name decorators bases body)
  | functionDef {span : Span} {isAsync : Bool} {name : String} {decorators : List Expr}
      {params : Params} {body : List Stmt} {e : Expr} (he : e ∈ decorators) (h : AsksForLenses e) :
      Declares (.functionDef span isAsync name decorators params body)

namespace Code.Stmt

/-- Whether a statement is a class. -/
def isClass : Stmt → Bool
  | .classDef _ _ _ _ _ => true
  | _ => false

/-- The name that a statement defines. -/
def givenName : Stmt → String
  | .classDef _ name _ _ _ | .functionDef _ _ name _ _ _ => name
  | _ => ""

/-- The statements inside a statement. -/
def inner : Stmt → List Stmt
  | .classDef _ _ _ _ body | .functionDef _ _ _ _ _ body | .compound _ body => body
  | _ => []

end Code.Stmt

section
variable {span : Span} {isAsync : Bool} {name : String} {decorators bases : List Expr} {params : Params}
  {body : List Stmt}

theorem any_isMark_iff : decorators.any isMark = true ↔ ∃ e ∈ decorators, AsksForLenses e := by
  rw [List.any_eq_true]
  exact exists_congr fun _ => and_congr_right fun _ => isMark_iff

theorem declares_classDef_iff : Declares (.classDef span name decorators bases body) ↔
    decorators.any isMark = true := by
  rw [any_isMark_iff]
  exact ⟨fun | .classDef he h => ⟨_, he, h⟩, fun ⟨_, he, h⟩ => .classDef he h⟩

theorem declares_functionDef_iff : Declares (.functionDef span isAsync name decorators params body) ↔
    decorators.any isMark = true := by
  rw [any_isMark_iff]
  exact ⟨fun | .functionDef he h => ⟨_, he, h⟩, fun ⟨_, he, h⟩ => .functionDef he h⟩

end

/-! ## Places in a module -/

/-- A statement at its place in a module. -/
structure Occurrence where
  /-- The number of each statement around it among those that it stands beside, and its own number. A
      statement is before those inside it, and these are before the ones behind it. -/
  position : List Nat
  /-- The statements around it, the outermost first. -/
  around : List Stmt
  stmt : Stmt

namespace Occurrence

/-- The place in the body of a statement, as a place beside this statement. -/
def inside (i : Nat) (t : Stmt) (o : Occurrence) : Occurrence := ⟨i :: o.position, t :: o.around, o.stmt⟩

/-- The names of the statements around a statement, and its own. -/
def names (o : Occurrence) : List String := (o.around ++ [o.stmt]).map (·.givenName)

/-- These names with dots between them. -/
def path (o : Occurrence) : String := ".".intercalate o.names

end Occurrence

/-- The statements at their places in a module, however deep. -/
inductive Occurs : List Stmt → Occurrence → Prop
  | here {ss : List Stmt} {i : Nat} {s : Stmt} (h : ss[i]? = some s) : Occurs ss ⟨[i], [], s⟩
  | inside {ss : List Stmt} {i : Nat} {t : Stmt} {o : Occurrence} (h : ss[i]? = some t)
      (ho : Occurs t.inner o) : Occurs ss (o.inside i t)

/-- A declared definition at its place, with nothing but classes around it. -/
structure Reached (ss : List Stmt) (o : Occurrence) : Prop where
  occurs : Occurs ss o
  classes : ∀ t ∈ o.around, t.isClass = true
  declares : Declares o.stmt

/-! ## The walk -/

mutual

/-- The places of the declared definitions in the statement with the number `i`. -/
def declaredIn (i : Nat) : Stmt → List Occurrence
  | .classDef span name decorators bases body =>
    (if decorators.any isMark then [⟨[i], [], .classDef span name decorators bases body⟩] else []) ++
    (declaredFrom 0 body).map (·.inside i (.classDef span name decorators bases body))
  | .functionDef span isAsync name decorators params body =>
    if decorators.any isMark then [⟨[i], [], .functionDef span isAsync name decorators params body⟩]
    else []
  | _ => []

/-- The places of the declared definitions in statements whose numbers begin with `k`. -/
def declaredFrom (k : Nat) : List Stmt → List Occurrence
  | [] => []
  | s :: ss => declaredIn k s ++ declaredFrom (k + 1) ss

end

variable {ss : List Stmt} {s : Stmt} {i k : Nat} {o : Occurrence}

/-! ### What is found -/

theorem mem_declaredIn : o ∈ declaredIn i s ↔ Declares s ∧ o = ⟨[i], [], s⟩ ∨
    s.isClass = true ∧ ∃ o' ∈ declaredFrom 0 s.inner, o = o'.inside i s := by
  have hself {c : Bool} {x : Occurrence} :
      o ∈ (if c = true then [x] else []) ↔ c = true ∧ o = x := by
    cases c <;> simp
  cases s with
  | classDef span name decorators bases body =>
    rw [declaredIn, List.mem_append, hself, declares_classDef_iff, List.mem_map]
    refine or_congr Iff.rfl ?_
    exact ⟨fun ⟨o', ho', h⟩ => ⟨rfl, o', ho', h.symm⟩, fun ⟨_, o', ho', h⟩ => ⟨o', ho', h.symm⟩⟩
  | functionDef span isAsync name decorators params body =>
    rw [declaredIn, hself, declares_functionDef_iff]
    exact ⟨.inl, fun h => h.resolve_right fun h => Bool.false_ne_true h.1⟩
  | _ =>
    refine ⟨fun h => absurd h List.not_mem_nil, ?_⟩
    rintro (⟨h, -⟩ | ⟨h, -⟩)
    · exact nomatch h
    · exact absurd h Bool.false_ne_true

theorem mem_declaredFrom : o ∈ declaredFrom k ss ↔
    ∃ n s, ss[n]? = some s ∧ o ∈ declaredIn (k + n) s := by
  induction ss generalizing k with
  | nil => simp [declaredFrom]
  | cons s ss ih =>
    rw [declaredFrom, List.mem_append, ih]
    constructor
    · rintro (h | ⟨n, t, ht, h⟩)
      · exact ⟨0, s, rfl, h⟩
      · exact ⟨n + 1, t, ht, by rwa [show k + (n + 1) = k + 1 + n by omega]⟩
    · rintro ⟨n, t, ht, h⟩
      cases n with
      | zero => exact .inl (Option.some.inj ht ▸ h)
      | succ n => exact .inr ⟨n, t, ht, by rwa [show k + 1 + n = k + (n + 1) by omega]⟩

/-- **The walk finds the declared definitions that have only classes around them.** -/
theorem mem_declaredFrom_iff_reached : o ∈ declaredFrom 0 ss ↔ Reached ss o := by
  constructor
  · -- by induction on the statements around what is found: the walk goes into one class after the other
    obtain ⟨position, around, stmt⟩ := o
    induction around generalizing ss position with
    | nil =>
      intro h
      obtain ⟨n, s, hs, h⟩ := mem_declaredFrom.1 h
      rw [Nat.zero_add] at h
      rcases mem_declaredIn.1 h with ⟨hdeclares, heq⟩ | ⟨-, o', -, heq⟩
      · obtain ⟨rfl, -, rfl⟩ := Occurrence.mk.inj heq
        exact ⟨.here hs, nofun, hdeclares⟩
      · exact absurd (congrArg Occurrence.around heq) (List.cons_ne_nil _ _).symm
    | cons t around ih =>
      intro h
      obtain ⟨n, s, hs, h⟩ := mem_declaredFrom.1 h
      rw [Nat.zero_add] at h
      rcases mem_declaredIn.1 h with ⟨-, heq⟩ | ⟨hclass, o', ho', heq⟩
      · exact absurd (congrArg Occurrence.around heq) (List.cons_ne_nil _ _)
      · obtain ⟨rfl, haround, rfl⟩ := Occurrence.mk.inj heq
        obtain ⟨rfl, rfl⟩ := List.cons.inj haround
        have hinner := ih o'.position ho'
        exact ⟨.inside hs hinner.occurs, List.forall_mem_cons.2 ⟨hclass, hinner.classes⟩,
          hinner.declares⟩
  · rintro ⟨hoccurs, hclasses, hdeclares⟩
    induction hoccurs with
    | here h => exact mem_declaredFrom.2 ⟨_, _, h, mem_declaredIn.2 (.inl ⟨hdeclares, by simp⟩)⟩
    | inside h _ ih =>
      obtain ⟨hclass, hclasses⟩ := List.forall_mem_cons.1 hclasses
      refine mem_declaredFrom.2 ⟨_, _, h, mem_declaredIn.2 (.inr ⟨hclass, _, ih hclasses hdeclares, ?_⟩)⟩
      rw [Nat.zero_add]

/-! ### The order -/

theorem position_of_mem_declaredIn (h : o ∈ declaredIn i s) : ∃ rest, o.position = i :: rest := by
  rcases mem_declaredIn.1 h with ⟨-, rfl⟩ | ⟨-, o', -, rfl⟩
  · exact ⟨[], rfl⟩
  · exact ⟨o'.position, rfl⟩

theorem position_of_mem_declaredFrom (h : o ∈ declaredFrom k ss) :
    ∃ i rest, k ≤ i ∧ o.position = i :: rest := by
  obtain ⟨n, s, -, h⟩ := mem_declaredFrom.1 h
  obtain ⟨rest, hrest⟩ := position_of_mem_declaredIn h
  exact ⟨k + n, rest, Nat.le_add_right k n, hrest⟩

mutual

theorem declaredIn_sorted (i : Nat) : ∀ s : Stmt,
    (declaredIn i s).Pairwise fun o o' => o.position < o'.position
  | .classDef span name decorators bases body => by
    rw [declaredIn]
    refine List.pairwise_append.2 ⟨?_, ?_, ?_⟩
    · split
      · exact List.pairwise_singleton _ _
      · exact .nil
    · refine List.pairwise_map.2 ((declaredFrom_sorted 0 body).imp fun {o o'} h => ?_)
      exact List.cons_lt_cons_iff.2 (.inr ⟨rfl, h⟩)
    · -- the number of the class alone is before all numbers that begin with it
      intro o ho o' ho'
      split at ho
      · obtain rfl := List.mem_singleton.1 ho
        obtain ⟨x, hx, rfl⟩ := List.mem_map.1 ho'
        obtain ⟨n, rest, -, hposition⟩ := position_of_mem_declaredFrom hx
        refine List.cons_lt_cons_iff.2 (.inr ⟨rfl, ?_⟩)
        rw [hposition]
        exact List.nil_lt_cons n rest
      · exact absurd ho List.not_mem_nil
  | .functionDef _ _ _ decorators _ _ => by
    rw [declaredIn]
    split
    · exact List.pairwise_singleton _ _
    · exact .nil
  | .assign _ _ _ | .annotate _ _ _ _ | .importModules _ _ | .importFrom _ _ _ _
  | .evaluate _ _ | .compound _ _ | .simple _ => .nil

/-- Declared definitions are found in the order of their places. -/
theorem declaredFrom_sorted (k : Nat) : ∀ ss : List Stmt,
    (declaredFrom k ss).Pairwise fun o o' => o.position < o'.position
  | [] => .nil
  | s :: ss => by
    rw [declaredFrom]
    refine List.pairwise_append.2 ⟨declaredIn_sorted k s, declaredFrom_sorted (k + 1) ss, ?_⟩
    intro o ho o' ho'
    obtain ⟨rest, hposition⟩ := position_of_mem_declaredIn ho
    obtain ⟨i, rest', hi, hposition'⟩ := position_of_mem_declaredFrom ho'
    rw [hposition, hposition']
    exact List.cons_lt_cons_iff.2 (.inl hi)

end

/-! ### The names -/

mutual

theorem markedIn_eq (outer : String) (i : Nat) : ∀ s : Stmt,
    markedIn outer s = (declaredIn i s).map fun o => (o.stmt, o.names.foldl qualify outer)
  | .classDef span name decorators bases body => by
    rw [markedIn, declaredIn, List.map_append, List.map_map, markedDefinitions_eq _ 0 body]
    refine congrArg₂ _ ?_ rfl
    split <;> rfl
  | .functionDef _ _ _ _ _ _ => by
    rw [markedIn, declaredIn]
    split <;> rfl
  | .assign _ _ _ | .annotate _ _ _ _ | .importModules _ _ | .importFrom _ _ _ _
  | .evaluate _ _ | .compound _ _ | .simple _ => rfl

/-- The declared definitions that are found in a body, with the names that are put before theirs. -/
theorem markedDefinitions_eq (outer : String) (k : Nat) : ∀ ss : List Stmt,
    markedDefinitions outer ss =
      (declaredFrom k ss).map fun o => (o.stmt, o.names.foldl qualify outer)
  | [] => rfl
  | s :: ss => by
    rw [markedDefinitions, declaredFrom, List.map_append, markedIn_eq outer k s,
      markedDefinitions_eq outer (k + 1) ss]

end

/-- What holds of the statements of a module, and of those in a class if it holds of the class, holds of a
    definition with only classes around it, and of these. -/
theorem Occurs.forall_around {P : Stmt → Prop} (h : Occurs ss o)
    (hclasses : ∀ t ∈ o.around, t.isClass = true) (hss : ∀ s ∈ ss, P s)
    (hinner : ∀ s : Stmt, s.isClass = true → P s → ∀ t ∈ s.inner, P t) :
    ∀ t ∈ o.around ++ [o.stmt], P t := by
  induction h with
  | here h => exact List.forall_mem_singleton.2 (hss _ (List.mem_of_getElem? h))
  | inside h _ ih =>
    obtain ⟨hclass, hclasses⟩ := List.forall_mem_cons.1 hclasses
    have ht := hss _ (List.mem_of_getElem? h)
    exact List.forall_mem_cons.2 ⟨ht, ih hclasses (hinner _ hclass ht)⟩

/-- **What is known of the declared definitions that are found**, and of their qualified names: all that
    goes from statements to those in classes, and from names to longer ones. -/
theorem forall_marked {P : Stmt → Prop} {R : String → Prop} {outer : String} (hss : ∀ s ∈ ss, P s)
    (hinner : ∀ s : Stmt, s.isClass = true → P s → ∀ t ∈ s.inner, P t) (houter : R outer)
    (hname : ∀ (name : String) (s : Stmt), R name → P s → R (qualify name s.givenName)) :
    ∀ x ∈ markedDefinitions outer ss, Declares x.1 ∧ P x.1 ∧ R x.2 := by
  intro x hx
  rw [markedDefinitions_eq outer 0 ss] at hx
  obtain ⟨o, ho, rfl⟩ := List.mem_map.1 hx
  obtain ⟨hoccurs, hclasses, hdeclares⟩ := mem_declaredFrom_iff_reached.1 ho
  have haround := hoccurs.forall_around hclasses hss hinner
  refine ⟨hdeclares, haround o.stmt (List.mem_append_right _ (List.mem_singleton_self _)), ?_⟩
  have hfold (path : List Stmt) (hpath : ∀ t ∈ path, P t) :
      ∀ name, R name → R ((path.map (·.givenName)).foldl qualify name) := by
    induction path with
    | nil => exact fun _ h => h
    | cons t path ih =>
      obtain ⟨ht, hpath⟩ := List.forall_mem_cons.1 hpath
      exact fun name h => ih hpath _ (hname name t h ht)
  exact hfold _ haround outer houter

end RecordLens
