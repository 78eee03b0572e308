import Mathlib.Data.Nat.Log
import RecordLens.Proofs.Evaluation
import RecordLens.Proofs.FieldExtraction
import RecordLens.Proofs.InferredInsertions
/-!
The types that are inferred from values. They are read off the form of an expression, a literal or a literal
behind one sign, before it is ever run; here they are held against what it comes to. A sign may change the
type of its literal or be refused by it, and there no type is inferred. A whole number that has no text is
refused before its type is looked at.

* `Inferable`: the expressions whose type is inferred; `inferable_iff`: those that come to a value of the
  type of their literal.
* `Expr.IsLong`: whole numbers without a text; `classify_of_shows`: what becomes of a literal.
* `LastLiteral`: the assignment whose type an annotation names; `Plan.IsOf.typed_by_last`.
* `literal_types_inferred`: which types are inferred, and that the values have them.
-/
namespace RecordLens

open Code

/-! ## Inferred types -/

/-- The expressions whose type is inferred, each with that type. -/
inductive Inferable : Expr → String → Prop
  | bool {span : Span} {b : Bool} : Inferable (.literal span (.bool b)) "bool"
  | int {span : Span} {n : Nat} : Inferable (.literal span (.int n)) "int"
  | float {span : Span} {x : Decimal.Binary64} : Inferable (.literal span (.real x)) "float"
  | text {span : Span} {points : List Nat} {marked : Bool} :
      Inferable (.literal span (.text points marked)) "str"
  | signedInt {span inner : Span} {op : SignOp} {n : Nat} (hop : op.IsSign) :
      Inferable (.sign span op (.literal inner (.int n))) "int"
  | signedFloat {span inner : Span} {op : SignOp} {x : Decimal.Binary64} (hop : op.IsSign) :
      Inferable (.sign span op (.literal inner (.real x))) "float"

/-- An expression is a literal, or a literal behind one sign. -/
inductive Code.Expr.Shows : Expr → Literal → Prop
  | plain {span : Span} {value : Literal} : Shows (.literal span value) value
  | signed {span inner : Span} {op : SignOp} {value : Literal} (hop : op.IsSign) :
      Shows (.sign span op (.literal inner value)) value

variable {e : Expr} {type : String} {value : Literal}

theorem inferable_of_signedKind {span inner : Span} {op : SignOp} (hop : op.IsSign)
    (h : value.signedKind.typeName? = some type) :
    Inferable (.sign span op (.literal inner value)) type := by
  cases value with
  | int n =>
    obtain rfl := Option.some.inj h
    exact .signedInt hop
  | real x =>
    obtain rfl := Option.some.inj h
    exact .signedFloat hop
  | _ => exact absurd h nofun

theorem typeName?_eq_some_iff_inferable : e.valueKind.typeName? = some type ↔ Inferable e type := by
  constructor
  · intro h
    unfold Expr.valueKind at h
    split at h
    next span value =>
      cases value with
      | bool b =>
        obtain rfl := Option.some.inj h
        exact .bool
      | int n =>
        obtain rfl := Option.some.inj h
        exact .int
      | real x =>
        obtain rfl := Option.some.inj h
        exact .float
      | text points marked =>
        obtain rfl := Option.some.inj h
        exact .text
      | _ => exact absurd h nofun
    next => exact inferable_of_signedKind .plus h
    next => exact inferable_of_signedKind .minus h
    next => exact absurd h nofun
  · intro h
    cases h with
    | signedInt hop => cases hop <;> rfl
    | signedFloat hop => cases hop <;> rfl
    | _ => rfl

theorem not_hasType {name : String} (h : name ∉ ["bool", "float", "int", "str"]) (kind : ValueKind) :
    ¬HasType kind name := by
  intro hkind
  cases hkind <;> exact h (by decide)

/-- **A type is inferred from a literal, signed or not, just if the expression has a value of the type of its
    literal, and that is one of the four.** -/
theorem inferable_iff : Inferable e type ↔ (∃ kind, HasType kind type) ∧ ∃ value, e.Shows value ∧
    value.datum.type.literalName? = some type ∧ ∃ d, e.ComesTo d ∧ d.type = value.datum.type := by
  constructor
  · intro h
    cases h with
    | bool => exact ⟨⟨_, .boolean⟩, _, .plain, rfl, _, comesTo_literal, rfl⟩
    | int => exact ⟨⟨_, .integer⟩, _, .plain, rfl, _, comesTo_literal, rfl⟩
    | float => exact ⟨⟨_, .float⟩, _, .plain, rfl, _, comesTo_literal, rfl⟩
    | text => exact ⟨⟨_, .string⟩, _, .plain, rfl, _, comesTo_literal, rfl⟩
    | signedInt hop =>
      exact ⟨⟨_, .integer⟩, _, .signed hop, rfl, (signed_keeps_type_iff hop).2 (.int _)⟩
    | signedFloat hop =>
      exact ⟨⟨_, .float⟩, _, .signed hop, rfl, (signed_keeps_type_iff hop).2 (.real _)⟩
  · rintro ⟨⟨kind, hkind⟩, value, hshows, hname, hkeeps⟩
    cases hshows with
    | plain =>
      cases value with
      | none | ellipsis => exact absurd hname nofun
      | imaginary x | bytes bs =>
        obtain rfl := Option.some.inj hname
        exact absurd hkind (not_hasType (by decide) kind)
      | _ =>
        obtain rfl := Option.some.inj hname
        constructor
    | signed hop =>
      cases (signed_keeps_type_iff hop).1 hkeeps with
      | imaginary x =>
        obtain rfl := Option.some.inj hname
        exact absurd hkind (not_hasType (by decide) kind)
      | int n =>
        obtain rfl := Option.some.inj hname
        exact .signedInt hop
      | real x =>
        obtain rfl := Option.some.inj hname
        exact .signedFloat hop

/-- An expression raises nothing and has a value of the type with this name, in every program. -/
def Code.Expr.HasValueOf (e : Expr) (type : String) : Prop :=
  ∃ d, e.ComesTo d ∧ d.type.literalName? = some type

theorem Inferable.hasValueOf (h : Inferable e type) : e.HasValueOf type := by
  obtain ⟨-, value, -, hname, d, hd, htype⟩ := inferable_iff.1 h
  exact ⟨d, hd, htype ▸ hname⟩

/-! ## Numbers without a text -/

theorem Decimal.length_natDigits (n : Nat) : (natDigits n).length = Nat.log 10 n + 1 := by
  have hdigits : ∀ (fuel m : Nat) (acc : List Char), m < fuel →
      (digitsOf fuel m acc).length = Nat.log 10 m + 1 + acc.length := by
    intro fuel
    induction fuel with
    | zero => exact fun m _ h => absurd h (Nat.not_lt_zero m)
    | succ fuel ih =>
      intro m acc hm
      rw [digitsOf]
      split
      next hsmall => rw [Nat.log_of_lt hsmall, List.length_cons, Nat.zero_add, Nat.add_comm]
      next hlarge =>
        rw [ih _ _ (by omega), Nat.log_of_one_lt_of_le (by decide) (Nat.le_of_not_lt hlarge),
          List.length_cons]
        omega
  exact hdigits (n + 1) n [] (Nat.lt_succ_self n)

theorem Decimal.lt_length_natDigits_iff {count n : Nat} (hcount : 0 < count) :
    count < (natDigits n).length ↔ Nat.pow 10 count ≤ n := by
  rw [length_natDigits, Nat.lt_succ_iff]
  rcases Nat.eq_zero_or_pos n with rfl | hpos
  · have hpower : 0 < Nat.pow 10 count := Nat.pow_pos (by decide)
    rw [Nat.log_zero_right]
    omega
  · exact Nat.le_log_iff_pow_le (by decide) (Nat.ne_of_gt hpos)

/-- A whole number with more digits than are written. -/
def Code.Literal.IsLong (value : Literal) : Prop := ∃ n, value = .int n ∧ Nat.pow 10 mostDigits ≤ n

/-- A whole number with more digits than are written, with a sign or without. -/
def Code.Expr.IsLong (e : Expr) : Prop := ∃ value, e.Shows value ∧ value.IsLong

/-- All literals have a text but long numbers. -/
theorem literal_write_cases (avoid : Bool) (value : Literal) :
    value.IsLong ∧ value.write avoid = .error .longNumber ∨
      ¬value.IsLong ∧ ∃ text, value.write avoid = .ok text := by
  cases value with
  | int n =>
    have hlength := @Decimal.lt_length_natDigits_iff mostDigits n (by decide)
    rw [Literal.write]
    by_cases hlong : Nat.pow 10 mostDigits ≤ n
    · exact .inl ⟨⟨n, rfl, hlong⟩, if_pos (hlength.2 hlong)⟩
    · refine .inr ⟨?_, _, if_neg (mt hlength.1 hlong)⟩
      rintro ⟨m, heq, hm⟩
      exact hlong (Literal.int.inj heq ▸ hm)
  | bool b =>
    refine .inr ⟨?_, ?_⟩
    · rintro ⟨n, heq, -⟩
      exact Literal.noConfusion heq
    · cases b <;> exact ⟨_, rfl⟩
  | _ =>
    refine .inr ⟨?_, _, rfl⟩
    rintro ⟨n, heq, -⟩
    exact Literal.noConfusion heq

/-- The text of a literal decides about that of the expression that shows it. -/
theorem text_of_shows (h : e.Shows value) :
    ∃ around : String → String, e.text = (value.write false).map around := by
  cases h with
  | plain =>
    refine ⟨id, ?_⟩
    rw [Expr.text, Expr.write]
    cases value.write false <;> rfl
  | @signed _ _ op _ _ =>
    refine ⟨fun text => bracketIf (op.level < Level.test) (op.text ++ text), ?_⟩
    rw [Expr.text, Expr.write, Expr.write]
    cases value.write false <;> rfl

/-- **A literal, signed or not, is given its kind, or it is a long number and refused.** -/
theorem classify_of_shows (h : e.Shows value) :
    value.IsLong ∧ e.classify = .error (.unwritable .longNumber) ∨
      ¬value.IsLong ∧ ∃ text, e.classify = .ok ⟨e.valueKind, text⟩ := by
  obtain ⟨around, htext⟩ := text_of_shows h
  rw [Expr.classify, textOf, htext]
  rcases literal_write_cases false value with ⟨hlong, hwrite⟩ | ⟨hshort, text, hwrite⟩
  · exact .inl ⟨hlong, by rw [hwrite]; rfl⟩
  · exact .inr ⟨hshort, around text, by rw [hwrite]; rfl⟩

theorem Inferable.shows (h : Inferable e type) : ∃ value, e.Shows value :=
  let ⟨_, value, hshows, _⟩ := inferable_iff.1 h
  ⟨value, hshows⟩

theorem kind_of_classify {v : InitialValue} (h : e.classify = .ok v) : v.kind = e.valueKind := by
  obtain ⟨text, -, h⟩ := bind_eq_ok.1 h
  obtain rfl := Except.ok.inj h
  rfl

/-- **A type is inferred for just the expressions that are `Inferable`, long numbers apart.** -/
theorem exists_classify_iff :
    (∃ v, e.classify = .ok v ∧ v.kind.typeName? = some type) ↔ Inferable e type ∧ ¬e.IsLong := by
  constructor
  · rintro ⟨v, hv, htype⟩
    rw [kind_of_classify hv] at htype
    refine ⟨typeName?_eq_some_iff_inferable.1 htype, ?_⟩
    rintro ⟨value, hshows, hlong⟩
    rcases classify_of_shows hshows with ⟨-, herror⟩ | ⟨hshort, -⟩
    · exact error_ne_ok (herror.symm.trans hv)
    · exact hshort hlong
  · rintro ⟨h, hshort⟩
    obtain ⟨value, hshows⟩ := h.shows
    rcases classify_of_shows hshows with ⟨hlong, -⟩ | ⟨-, text, hclassify⟩
    · exact absurd ⟨value, hshows, hlong⟩ hshort
    · exact ⟨_, hclassify, typeName?_eq_some_iff_inferable.2 h⟩

/-! ## Annotations -/

/-- A statement assigns a value to one name and begins on a line. -/
def Code.Stmt.Assigns (s : Stmt) (line : Nat) (name : String) (value : Expr) : Prop :=
  ∃ span target, span.line = line ∧ s = .assign span [.name target name] value

/-- Of the statements of a body that assign to a name on a line, the last one with a literal. -/
def LastLiteral (body : List Stmt) (line : Nat) (name : String) (value : Expr) (type : String) : Prop :=
  ∃ front s back, body = front ++ s :: back ∧ s.Assigns line name value ∧ Inferable value type ∧
    ∀ t ∈ back, ∀ other, t.Assigns line name other → ∀ type, ¬Inferable other type

theorem LastLiteral.inferable {body : List Stmt} {line : Nat} {name : String} {value : Expr}
    (h : LastLiteral body line name value type) : Inferable value type := by
  obtain ⟨_, _, _, -, -, hvalue, -⟩ := h
  exact hvalue

theorem LastLiteral.exists_assigns {body : List Stmt} {line : Nat} {name : String} {value : Expr}
    (h : LastLiteral body line name value type) : ∃ s ∈ body, s.Assigns line name value := by
  obtain ⟨front, s, back, rfl, hs, -⟩ := h
  exact ⟨s, List.mem_append_right _ List.mem_cons_self, hs⟩

theorem typedInsertions_of_inferable {s : Stmt} {line : Nat} {name : String} {value : Expr}
    (hs : s.Assigns line name value) (hreserved : isReserved name = false) (h : Inferable value type) :
    typedInsertions s ≠ [] := by
  obtain ⟨span, target, -, rfl⟩ := hs
  simp only [typedInsertions, hreserved, Bool.false_eq_true, if_false,
    typeName?_eq_some_iff_inferable.2 h, typingOf]
  exact List.cons_ne_nil _ _

theorem inferredField?_split {fields : List Field} {line : Nat} {name : String} {f : Field}
    (h : inferredField? fields line name = some f) : f.inferred = true ∧ f.line = line ∧ f.name = name ∧
      ∃ before behind, fields = before ++ f :: behind ∧
        ∀ g ∈ behind, g.inferred = true → g.line = line → g.name ≠ name := by
  obtain ⟨htest, behind, before, hsplit, hbehind⟩ := List.find?_eq_some_iff_append.1 h
  simp only [Bool.and_eq_true, decide_eq_true_eq] at htest
  refine ⟨htest.1.1, htest.1.2, htest.2, before.reverse, behind.reverse, ?_, ?_⟩
  · rw [← List.reverse_reverse fields, hsplit]
    simp
  · intro g hg hinferred hline hname
    have hmissed := hbehind g (List.mem_reverse.1 hg)
    simp [hinferred, hline, hname] at hmissed

section
variable {tree : List Stmt} {p : Plan} {body : List Stmt} (h : p.IsOf tree body)
  (htypes : TypesHaveText tree)
include h htypes

/-- The field that is found for a name on a line comes of the last literal assigned to it there. -/
theorem Plan.IsOf.lastLiteral {line : Nat} {name : String} {f : Field}
    (hf : inferredField? p.fields line name = some f) :
    ∃ value, LastLiteral body line name value f.type := by
  obtain ⟨hclass, hmembers, hfields⟩ := h.elim
  have hstatements := throughout_iff.1 (htypes.of_classBodies hclass)
  obtain ⟨hinferred, rfl, rfl, before, behind, hsplit, hbehind⟩ := inferredField?_split hf
  -- the inferred fields behind `f` are those of the statements behind its own
  have hdeclared := inferredFields_eq hmembers
  rw [← hfields, hsplit, List.filter_append, List.filter_cons_of_pos hinferred] at hdeclared
  obtain ⟨front, rest, rfl, -, hrest⟩ := List.filterMap_eq_append_iff.1 hdeclared.symm
  obtain ⟨between, s, back, rfl, -, hs, hback⟩ := List.filterMap_eq_cons_iff.1 hrest
  obtain ⟨span, target, value, rfl, hspan, -⟩ := typedBy_of_inferredFieldOf hs (hstatements s (by simp))
  obtain ⟨hreserved, -, htype, -⟩ := inferredFieldOf_assign hs
  refine ⟨value, front ++ between, _, back, (List.append_assoc _ _ _).symm,
    ⟨span, target, hspan.symm, rfl⟩, typeName?_eq_some_iff_inferable.1 htype, ?_⟩
  intro t ht other hassigns type hinferable
  obtain ⟨m, hm, -⟩ := exists_memberOf hmembers (s := t) (by simp [ht])
  obtain ⟨g, hg⟩ :=
    exists_inferredFieldOf hm (typedInsertions_of_inferable hassigns hreserved hinferable)
  have hfound : g ∈ behind.filter (·.inferred) := hback ▸ List.mem_filterMap.2 ⟨t, ht, hg⟩
  obtain ⟨hgmem, hginferred⟩ := List.mem_filter.1 hfound
  obtain ⟨tspan, ttarget, hline, rfl⟩ := hassigns
  obtain ⟨-, -, -, heq⟩ := inferredFieldOf_assign hg
  refine hbehind g hgmem hginferred ?_ ?_
  · rw [heq]
    exact hline
  · rw [heq]

/-- **An annotation names the type of the last literal that is assigned to its name on its line.** -/
theorem Plan.IsOf.typed_by_last (span target : Span) (name : String) (e : Expr) :
    insertionsFor p.fields (.assign span [.name target name] e) = [] ∨ ∃ type last,
      insertionsFor p.fields (.assign span [.name target name] e) = typingOf target e type ∧
      LastLiteral body span.line name last type := by
  rw [insertionsFor]
  cases hf : inferredField? p.fields span.line name with
  | none => exact .inl rfl
  | some f =>
    obtain ⟨last, hlast⟩ := h.lastLiteral htypes hf
    exact .inr ⟨f.type, last, rfl, hlast⟩

end

/-- In an expansion, an annotation that is written names the type of the last literal that is assigned to
    its name on its line. -/
theorem typed_by_last_of_expand {filename text : String} {e : Expansion}
    (hexpand : expand filename text = .ok e) : ∃ tree, Module.parse text = .ok tree ∧
      ∀ p ∈ e.plans, ∃ body, p.IsOf tree body ∧ ∀ span target name value,
        insertionsFor p.fields (.assign span [.name target name] value) = [] ∨ ∃ type last,
          insertionsFor p.fields (.assign span [.name target name] value) =
            typingOf target value type ∧ LastLiteral body span.line name last type := by
  obtain ⟨tree, htree, htypes, hplans⟩ := exists_isOf_of_expand hexpand
  refine ⟨tree, htree, fun p hp => ?_⟩
  obtain ⟨body, h⟩ := hplans p hp
  exact ⟨body, h, h.typed_by_last htypes⟩

/-- **Inferred types are right, and every literal has one.** A type is inferred for an expression if and only
    if the expression is a literal, or a number behind one sign, and no whole number with more digits than
    are written; these are the expressions that show a literal, come to a value of its type in every
    program, and raise nothing, where that type is one of four. A longer number is refused. What a plan puts
    behind the name that an expression is assigned to is the type of a value of that name: of the last
    literal among those that stand on its line, so of the expression itself if that stands there alone. The
    heads of classes stand on different lines and the types that are written have a text, as in every tree
    that is read from a text. -/
theorem literal_types_inferred (e : Expr) :
    (∀ type, ((∃ v, e.classify = .ok v ∧ v.kind.typeName? = some type) ↔
        Inferable e type ∧ ¬e.IsLong) ∧
      (Inferable e type ↔ (∃ kind, HasType kind type) ∧ ∃ value, e.Shows value ∧
        value.datum.type.literalName? = some type ∧ ∃ d, e.ComesTo d ∧ d.type = value.datum.type) ∧
      (Inferable e type → e.HasValueOf type ∧
        (e.IsLong → e.classify = .error (.unwritable .longNumber)))) ∧
    ∀ {tree : List Stmt} {p : Plan} {body : List Stmt}, p.IsOf tree body →
      ((classBodies tree).map (·.1)).Nodup → TypesHaveText tree →
      p.insertions tree = body.flatMap (insertionsFor p.fields) ∧
      ∀ span target name,
        insertionsFor p.fields (.assign span [.name target name] e) = [] ∨ ∃ type last,
          insertionsFor p.fields (.assign span [.name target name] e) = typingOf target e type ∧
          LastLiteral body span.line name last type ∧ last.HasValueOf type ∧
          ((∀ t ∈ body, ∀ other, t.Assigns span.line name other → other = e) →
            Inferable e type ∧ e.HasValueOf type) := by
  refine ⟨fun type => ⟨exists_classify_iff, inferable_iff, fun h => ⟨h.hasValueOf, ?_⟩⟩, ?_⟩
  · rintro ⟨value, hshows, hlong⟩
    rcases classify_of_shows hshows with ⟨-, herror⟩ | ⟨hshort, -⟩
    · exact herror
    · exact absurd hlong hshort
  · intro tree p body h hlines htypes
    have hinsertions : p.insertions tree = body.flatMap (insertionsFor p.fields) := by
      rw [Plan.insertions, lookup_classBodies hlines h.elim.1]
    refine ⟨hinsertions, fun span target name => ?_⟩
    rcases h.typed_by_last htypes span target name e with hkept | ⟨type, last, htyping, hlast⟩
    · exact .inl hkept
    · have hvalue : last.HasValueOf type := hlast.inferable.hasValueOf
      refine .inr ⟨type, last, htyping, hlast, hvalue, fun halone => ?_⟩
      obtain ⟨t, ht, hassigns⟩ := hlast.exists_assigns
      obtain rfl : last = e := halone t ht last hassigns
      exact ⟨hlast.inferable, hvalue⟩

/-- One name on one line, with a number first and with text behind it. -/
def twiceBody : List Stmt :=
  [.assign ⟨4, 8, 4, 16⟩ [.name ⟨4, 8, 4, 12⟩ "size"] (.literal ⟨4, 15, 4, 16⟩ (.int 1)),
   .assign ⟨4, 18, 4, 28⟩ [.name ⟨4, 18, 4, 22⟩ "size"]
    (.literal ⟨4, 25, 4, 28⟩ (.text [97] false))]

def twiceTree : List Stmt := [.classDef (lineSpan 3 20) "Shelf" [frozenDecorator] [] twiceBody]

def twice : Declaration where
  kind := .record
  name := "Shelf"
  members :=
    [⟨[⟨"size", true⟩], none, some ⟨.integer, "1"⟩, [], false, 4⟩,
     ⟨[⟨"size", true⟩], none, some ⟨.string, "'a'"⟩, [], false, 4⟩]
  signatures := []
  qualifiedName := "Shelf"
  location := ⟨sourceName, 3, 3, 4, String.ofList (List.replicate 8 ' ')⟩

def twicePlan : Plan := ⟨twice, twice.fields, none⟩

/-- The number is given the type of the text behind it, and a longer number none at all. -/
theorem literal_types_inferred_twice :
    (Expr.literal default (.int (Nat.pow 10 mostDigits))).classify =
      .error (.unwritable .longNumber) ∧
    twicePlan.IsOf twiceTree twiceBody ∧ ((classBodies twiceTree).map (·.1)).Nodup ∧
    TypesHaveText twiceTree ∧
    twicePlan.insertions twiceTree =
      typingOf ⟨4, 8, 4, 12⟩ (.literal ⟨4, 15, 4, 16⟩ (.int 1)) "str" ++
        typingOf ⟨4, 18, 4, 22⟩ (.literal ⟨4, 25, 4, 28⟩ (.text [97] false)) "str" := by
  have hplan : twicePlan.IsOf twiceTree twiceBody := by
    refine ⟨sourceName, .assumed, lineSpan 3 20, "Shelf", [frozenDecorator], [], "Shelf", twice,
      List.mem_cons_self, ?_, ?_⟩
    · decide +kernel
    · decide +kernel
  have hlines : ((classBodies twiceTree).map (·.1)).Nodup := by decide
  have htypes : TypesHaveText twiceTree :=
    List.forall_mem_cons.2 ⟨trivial, List.forall_mem_singleton.2 trivial⟩
  obtain ⟨hinsertions, -⟩ := (literal_types_inferred default).2 hplan hlines htypes
  refine ⟨?_, hplan, hlines, htypes, hinsertions.trans rfl⟩
  obtain ⟨-, hlong⟩ :=
    ((literal_types_inferred (.literal default (.int (Nat.pow 10 mostDigits)))).1 "int").2.2 .int
  exact hlong ⟨_, .plain, _, rfl, Nat.le_refl _⟩

end RecordLens
