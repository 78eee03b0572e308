import RecordLens.Proofs.BodyPlaces
import RecordLens.Proofs.DeclaredDefinitions
import RecordLens.Proofs.WrittenTypes
/-!
The qualified names of declared definitions. They are made of the names of the classes around a definition
and of its own, with dots between them, if the outermost classes have names. Those of a text have.

* `foldl_qualify`: names that are joined one after the other.
* `outerNamed_of_parse`: the classes of a text have names.
* `reachable_declarations`: the declared definitions of a module.
-/
namespace RecordLens

open Code

/-! ## Joined names -/

variable {o : Occurrence}

theorem qualify_of_ne_empty {outer : String} (h : outer ≠ "") (name : String) :
    qualify outer name = outer ++ "." ++ name := by
  rw [qualify, if_neg (mt String.isEmpty_iff.1 h)]

theorem foldl_qualify {outer : String} (h : outer ≠ "") (names : List String) :
    names.foldl qualify outer = ".".intercalate (outer :: names) := by
  induction names generalizing outer with
  | nil => exact String.intercalate_singleton.symm
  | cons name names ih =>
    have hne : outer ++ "." ++ name ≠ "" := by simp [String.append_eq_empty_iff]
    rw [List.foldl_cons, qualify_of_ne_empty h, ih hne]
    rfl

/-- The outermost classes of a module have names. -/
def OuterNamed (tree : List Stmt) : Prop := ∀ s ∈ tree, s.isClass = true → s.givenName ≠ ""

instance (tree : List Stmt) : Decidable (OuterNamed tree) :=
  inferInstanceAs (Decidable (∀ s ∈ tree, s.isClass = true → s.givenName ≠ ""))

/-- The names around a definition are joined by dots. -/
theorem Reached.foldl_qualify {tree : List Stmt} (hnamed : OuterNamed tree) (h : Reached tree o) :
    o.names.foldl qualify "" = o.path := by
  obtain ⟨hoccurs, hclasses, -⟩ := h
  -- with the first name something stands before the dot, whatever the other names are
  cases hoccurs with
  | here _ => exact String.intercalate_singleton.symm
  | inside ht _ =>
    have hname := hnamed _ (List.mem_of_getElem? ht) (hclasses _ List.mem_cons_self)
    exact RecordLens.foldl_qualify hname _

/-! ## Names in texts -/

namespace Code

open Reading

/-- The name of a class is that of a token. -/
def NamedBy (tokens : Array Token) (s : Stmt) : Prop := s.isClass = true →
  ∃ t ∈ tokens, t.kind = .name ∧ s.givenName = Text.normalForm t.text

namespace Grammar

variable {promise : Phrase.Promise} {e : Setting} {i : Nat} (he : e.Keeps promise)

theorem ident_gives : ident.Gives promise e i fun name _ =>
    ∃ t ∈ e.list.tokens, t.kind = .name ∧ name = Text.normalForm t.text := by
  unfold ident
  exact nameToken_gives.bind fun t _ _ hname => .pure ⟨t, hname.1, hname.2, rfl⟩

include he

theorem functionHead_named (ds : List Expr) : (functionHead ds).Gives promise e i
    fun s _ => NamedBy e.list.tokens s := by
  have hform (isAsync : Bool) {start : Reading Unit} [Forward promise start] :
      (functionForm isAsync ds start).Gives promise e i fun s _ => NamedBy e.list.tokens s :=
    .spanned fun _ _ => .past he fun _ _ _ => .past he fun _ _ _ => .past he fun _ _ _ =>
      .past he fun _ _ _ => .past he fun _ _ _ => .past he fun _ _ _ => .past he fun _ _ _ =>
      .past he fun _ _ _ => .past he fun _ _ _ => .pure nofun
  exact .orElse (.trap (Forward.gives he i)) (.orElse (hform _) (hform _))

theorem classTail_named (ds : List Expr) : (classTail ds).Gives promise e i
    fun s _ => NamedBy e.list.tokens s := by
  have hhead (j : Nat) : classHead.Gives promise e j fun head _ =>
      ∃ t ∈ e.list.tokens, t.kind = .name ∧ head.1 = Text.normalForm t.text := by
    unfold classHead
    exact .past he fun _ _ _ => ident_gives.bind fun _ _ _ hname => .past he fun _ _ _ => .pure hname
  unfold classTail
  refine .orElse (.trap (Forward.gives he i)) (.spanned fun _ _ => ?_)
  exact (hhead i).bind fun _ _ _ hname => .past he fun _ _ _ => .past he fun _ _ _ => .pure fun _ => hname

end Grammar

/-- **The classes of a text have names.** -/
theorem outerNamed_of_parse {text : String} {tree : List Stmt} (h : Module.parse text = .ok tree) :
    OuterNamed tree := by
  obtain ⟨-, hnamed⟩ := parse_gives (P := fun ss _ =>
    ∀ s ∈ ss, NamedBy (tokenize 1 (closeLastLine text.toList)).tokens s) bodyOf_settles
    (fun {e} hlist he => by
      rw [← hlist]
      refine Grammar.file_each (fun _ => Grammar.compoundStatement_each he
        (fun ds _ => Grammar.functionHead_named he ds) (fun ds _ => Grammar.classTail_named he ds)
        nofun) (fun _ => (Grammar.simpleStatements_begin he).mono ?_) he
      rintro ss _ - ⟨hsimple, -⟩ s hs hclass
      cases s <;> first | exact absurd hclass Bool.false_ne_true | exact absurd (hsimple _ hs) Bool.false_ne_true)
    h
  intro s hs hclass
  obtain ⟨t, ht, hkind, hname⟩ := hnamed s hs hclass
  rw [hname]
  exact Text.normalForm_ne_empty (text_ne_empty_of_name ht hkind)

end Code

/-! ## Modules -/

/-- **The declared definitions of a module are those that can be reached.** Every decorated definition that
    has nothing but classes around it is found once, in the order of the places, and no other statement is.
    If the outermost classes have names, its qualified name is its path: the names of the classes around it
    and its own, with dots between them. In the module of a text they have. -/
theorem reachable_declarations (tree : List Stmt) : ∃ os : List Occurrence,
    os.Pairwise (fun o o' => o.position < o'.position) ∧
    (∀ o, o ∈ os ↔ Reached tree o) ∧
    (markedDefinitions "" tree).map (·.1) = os.map (·.stmt) ∧
    (OuterNamed tree → markedDefinitions "" tree = os.map fun o => (o.stmt, o.path)) ∧
    ∀ text, Module.parse text = .ok tree → OuterNamed tree := by
  refine ⟨declaredFrom 0 tree, declaredFrom_sorted 0 tree, fun _ => mem_declaredFrom_iff_reached, ?_, ?_,
    fun _ => outerNamed_of_parse⟩
  · rw [markedDefinitions_eq "" 0 tree, List.map_map]
    rfl
  · intro hnamed
    rw [markedDefinitions_eq "" 0 tree]
    refine List.map_congr_left fun o ho => ?_
    rw [(mem_declaredFrom_iff_reached.1 ho).foldl_qualify hnamed]

/-- A declared class in one that is not declared is found, a declared function in a branch is not. -/
theorem reachable_declarations_nested :
    let mark : Expr := .name default "autolens"
    let late : Stmt := .functionDef default false "late" [mark] default []
    let tree : List Stmt := [.classDef default "Ledger" [] []
      [.compound default [late], .classDef default "Entry" [mark] [] []]]
    OuterNamed tree ∧ ∃ os : List Occurrence, (∀ o, o ∈ os ↔ Reached tree o) ∧
      os.map (·.path) = ["Ledger.Entry"] := by
  intro mark late tree
  have hnamed : OuterNamed tree := by decide
  obtain ⟨os, -, hreached, -, hpaths, -⟩ := reachable_declarations tree
  refine ⟨hnamed, os, hreached, ?_⟩
  calc os.map (·.path) = (markedDefinitions "" tree).map (·.2) := by
        rw [hpaths hnamed, List.map_map]
        rfl
    _ = ["Ledger.Entry"] := by decide

end RecordLens
