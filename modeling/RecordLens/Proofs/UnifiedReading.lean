import RecordLens.Proofs.CanonicalTexts
import RecordLens.Proofs.NormalForms
import RecordLens.Proofs.StatementPlaces
/-!
What is read from a text without carriage returns is written without them. Names are the normal forms of
tokens, and everything else is put together from parts that have been read. So each reader gives what is
written so, as long as phrases do.

* `Shows`: what it is for results to be written without carriage returns.
* `Entails`: what is known of a result because of the parts that have been read before it.
* `Phrase.unified`: what is promised of phrases.
* `Reads`: the readers that give such results, with a rule for each way of combining readers.
-/
namespace RecordLens.Code

open Reading Grammar

/-! ## Statements -/

mutual

/-- The names and the expressions that declarations in a statement are written with hold no carriage
    return. -/
def Stmt.Unified : Stmt → Prop
  | .classDef _ name _ _ body => Text.Unified name ∧ UnifiedEach body
  | .functionDef _ _ name _ _ _ => Text.Unified name
  | .assign _ targets _ => ∀ target ∈ targets, target.Unified
  | .annotate _ target type _ => target.Unified ∧ type.Unified
  | _ => True

/-- Statements that are unified. -/
def UnifiedEach : List Stmt → Prop
  | [] => True
  | s :: ss => s.Unified ∧ UnifiedEach ss

end

theorem unifiedEach_iff {ss : List Stmt} : UnifiedEach ss ↔ ∀ s ∈ ss, s.Unified := by
  induction ss with
  | nil => exact iff_of_true trivial nofun
  | cons s ss ih => rw [UnifiedEach, ih, List.forall_mem_cons]

/-! ## Results -/

/-- What it is for results to be written without carriage returns. -/
class Shows (α : Type) where
  Unified : α → Prop

open Shows (Unified)

section
variable {α β : Type}

instance : Shows String := ⟨Text.Unified⟩
instance : Shows Token := ⟨fun t => Text.Unified t.text⟩
instance : Shows Expr := ⟨Expr.Unified⟩
instance : Shows Keyword := ⟨Keyword.Unified⟩
instance : Shows Comparison := ⟨Comparison.Unified⟩
instance : Shows DictItem := ⟨DictItem.Unified⟩
instance : Shows Clause := ⟨Clause.Unified⟩
instance : Shows Param := ⟨Param.Unified⟩
instance : Shows Params := ⟨Params.Unified⟩
instance : Shows Stmt := ⟨Stmt.Unified⟩
instance [Shows α] : Shows (List α) := ⟨fun as => ∀ a ∈ as, Unified a⟩
instance [Shows α] : Shows (Option α) := ⟨fun o => ∀ a ∈ o, Unified a⟩
instance [Shows α] [Shows β] : Shows (α × β) := ⟨fun p => Unified p.1 ∧ Unified p.2⟩
instance [Shows α] : Shows (Span → α) := ⟨fun build => ∀ s, Unified (build s)⟩
instance : Shows Arguments := ⟨fun a => Unified a.args ∧ Unified a.keywords⟩
instance : Shows LateArgument := ⟨fun a => Unified a.keyword? ∧ Unified a.starred?⟩

instance : Shows StarPart :=
  ⟨fun s => Unified s.variadic ∧ Unified s.keywordOnly ∧ Unified s.keywords⟩

instance : Shows Unit := ⟨fun _ => True⟩
instance : Shows Nat := ⟨fun _ => True⟩
instance : Shows Span := ⟨fun _ => True⟩
instance : Shows CompareOp := ⟨fun _ => True⟩
instance : Shows Alias := ⟨fun _ => True⟩
instance : Shows Joined := ⟨fun _ => True⟩

/-- The results of phrases. -/
instance showsResult : (p : Phrase) → Shows p.Result
  | .expression | .starExpression | .disjunction | .conjunction | .inversion | .bitOr | .bitXor
  | .bitAnd | .shift | .sum | .product | .factor | .awaited | .primary | .strings | .target
  | .targetAtom | .targetPrimary | .deleted | .singleTarget | .annotationTarget =>
    inferInstanceAs (Shows Expr)
  | .arguments => inferInstanceAs (Shows Arguments)
  | .assignmentTrap => inferInstanceAs (Shows Unit)
  | .closedPattern | .starPattern | .dottedPattern => inferInstanceAs (Shows Span)
  | .dottedName => inferInstanceAs (Shows String)
  | .simpleStatement | .elifBranch => inferInstanceAs (Shows Stmt)
  | .block => inferInstanceAs (Shows (List Stmt))

/-- Results of which nothing is written. -/
class Mute (α : Type) [Shows α] : Prop where
  unified : ∀ a : α, Unified a

instance : Mute Unit := ⟨fun _ => trivial⟩
instance : Mute Nat := ⟨fun _ => trivial⟩
instance : Mute Span := ⟨fun _ => trivial⟩
instance : Mute CompareOp := ⟨fun _ => trivial⟩
instance : Mute Alias := ⟨fun _ => trivial⟩
instance : Mute Joined := ⟨fun _ => trivial⟩
instance [Shows α] [h : Mute α] : Mute (List α) := ⟨fun _ a _ => h.unified a⟩

end

/-! ## What follows from the parts -/

/-- `Q` follows from `P`, which is what is known of the parts that have been read. -/
class Entails (P Q : Prop) : Prop where
  holds : P → Q

namespace Entails

section
variable {P Q R : Prop}

-- the last part that has been read stands on the right, and the search goes on to the ones before it
instance : Entails (P ∧ Q) Q := ⟨And.right⟩
instance [h : Entails P R] : Entails (P ∧ Q) R := ⟨fun hP => h.holds hP.1⟩

end

section
variable {P : Prop} {α β : Type} [Shows α] [Shows β]

instance {build : Span → α} [h : ∀ s, Entails P (Unified (build s))] : Entails P (Unified build) :=
  ⟨fun hP s => (h s).holds hP⟩

instance {a : α} {b : β} [ha : Entails P (Unified a)] [hb : Entails P (Unified b)] :
    Entails P (Unified (a, b)) := ⟨fun hP => ⟨ha.holds hP, hb.holds hP⟩⟩

instance {p : α × β} [h : Entails P (Unified p)] : Entails P (Unified p.1) :=
  ⟨fun hP => (h.holds hP).1⟩

instance {p : α × β} [h : Entails P (Unified p)] : Entails P (Unified p.2) :=
  ⟨fun hP => (h.holds hP).2⟩

/-! ### Lists and options -/

instance : Entails P (Unified ([] : List α)) := ⟨fun _ => nofun⟩

instance {a : α} {as : List α} [ha : Entails P (Unified a)] [has : Entails P (Unified as)] :
    Entails P (Unified (a :: as)) :=
  ⟨fun hP => List.forall_mem_cons.2 ⟨ha.holds hP, has.holds hP⟩⟩

instance {as bs : List α} [ha : Entails P (Unified as)] [hb : Entails P (Unified bs)] :
    Entails P (Unified (as ++ bs)) :=
  ⟨fun hP => List.forall_mem_append.2 ⟨ha.holds hP, hb.holds hP⟩⟩

instance {ass : List (List α)} [h : Entails P (Unified ass)] : Entails P (Unified ass.flatten) :=
  ⟨fun hP => List.forall_mem_flatten.2 (h.holds hP)⟩

instance : Entails P (Unified (none : Option α)) := ⟨fun _ => nofun⟩

instance {a : α} [h : Entails P (Unified a)] : Entails P (Unified (some a)) :=
  ⟨fun hP _ hb => Option.some.inj hb ▸ h.holds hP⟩

instance {o : Option α} {a : α} [ho : Entails P (Unified o)] [ha : Entails P (Unified a)] :
    Entails P (Unified (o.getD a)) := by
  refine ⟨fun hP => ?_⟩
  cases o with
  | none => exact ha.holds hP
  | some b => exact ho.holds hP b rfl

end

/-! ### Names and expressions -/

section
variable {P : Prop} {span : Span} {x y z : Expr} {xs : List Expr} {cs : List Clause} {name : String}

instance {t : Token} [h : Entails P (Unified t)] : Entails P (Unified (Text.normalForm t.text)) :=
  ⟨fun hP => Text.unified_normalForm (h.holds hP)⟩

instance {s t : String} [hs : Entails P (Unified s)] [ht : Entails P (Unified t)] :
    Entails P (Unified (s ++ "." ++ t)) :=
  ⟨fun hP => by
    refine Text.unified_append.2 ⟨Text.unified_append.2 ⟨hs.holds hP, by decide⟩, ht.holds hP⟩⟩

instance [h : Entails P (Unified name)] : Entails P (Unified (Expr.name span name)) :=
  ⟨fun hP => .name (h.holds hP)⟩

instance (value : Literal) : Entails P (Unified (Expr.literal span value)) := ⟨fun _ => .literal value⟩

instance [hx : Entails P (Unified x)] [h : Entails P (Unified name)] :
    Entails P (Unified (Expr.attribute span x name)) :=
  ⟨fun hP => .attributeOf (hx.holds hP) (h.holds hP)⟩

instance [hx : Entails P (Unified x)] [hy : Entails P (Unified y)] :
    Entails P (Unified (Expr.subscript span x y)) :=
  ⟨fun hP => .subscript (hx.holds hP) (hy.holds hP)⟩

instance [hx : Entails P (Unified x)] : Entails P (Unified (Expr.starred span x)) :=
  ⟨fun hP => .starred (hx.holds hP)⟩

instance {ks : List Keyword} [hx : Entails P (Unified x)] [hxs : Entails P (Unified xs)]
    [hks : Entails P (Unified ks)] : Entails P (Unified (Expr.call span x xs ks)) :=
  ⟨fun hP => .call (hx.holds hP) (hxs.holds hP) (hks.holds hP)⟩

instance optionalCall {args : Option Arguments} [hx : Entails P (Unified x)]
    [hargs : Entails P (Unified args)] : Entails P (Unified (fun s =>
      match args with
      | some a => .call s x a.args a.keywords
      | none => .call s x [] [] : Span → Expr)) := by
  refine ⟨fun hP s => ?_⟩
  cases args with
  | none => exact .call (hx.holds hP) nofun nofun
  | some a =>
    obtain ⟨hxs, hks⟩ := hargs.holds hP a rfl
    exact .call (hx.holds hP) hxs hks

instance (op : SignOp) [hx : Entails P (Unified x)] : Entails P (Unified (Expr.sign span op x)) :=
  ⟨fun hP => .sign (hx.holds hP)⟩

instance (op : BinaryOp) [hx : Entails P (Unified x)] [hy : Entails P (Unified y)] :
    Entails P (Unified (Expr.binary span x op y)) :=
  ⟨fun hP => .binary (hx.holds hP) (hy.holds hP)⟩

instance (op : LogicOp) [hxs : Entails P (Unified xs)] : Entails P (Unified (Expr.logic span op xs)) :=
  ⟨fun hP => .logic (hxs.holds hP)⟩

instance {rest : List Comparison} [hx : Entails P (Unified x)] [hrest : Entails P (Unified rest)] :
    Entails P (Unified (Expr.compare span x rest)) :=
  ⟨fun hP => .compare (hx.holds hP) (hrest.holds hP)⟩

instance (op : CompareOp) [hx : Entails P (Unified x)] : Entails P (Unified (Comparison.mk op x)) :=
  ⟨hx.holds⟩

instance [hx : Entails P (Unified x)] [hy : Entails P (Unified y)] [hz : Entails P (Unified z)] :
    Entails P (Unified (Expr.choice span x y z)) :=
  ⟨fun hP => .choice (hx.holds hP) (hy.holds hP) (hz.holds hP)⟩

instance {ps : Params} [hps : Entails P (Unified ps)] [hx : Entails P (Unified x)] :
    Entails P (Unified (Expr.lambda span ps x)) :=
  ⟨fun hP => .lambda (hps.holds hP) (hx.holds hP)⟩

instance [hx : Entails P (Unified x)] [hy : Entails P (Unified y)] :
    Entails P (Unified (Expr.assignment span x y)) :=
  ⟨fun hP => .assignment (hx.holds hP) (hy.holds hP)⟩

instance [hxs : Entails P (Unified xs)] : Entails P (Unified (Expr.tuple span xs)) :=
  ⟨fun hP => .tuple (hxs.holds hP)⟩

instance [hxs : Entails P (Unified xs)] : Entails P (Unified (Expr.list span xs)) :=
  ⟨fun hP => .list (hxs.holds hP)⟩

instance [hxs : Entails P (Unified xs)] : Entails P (Unified (Expr.set span xs)) :=
  ⟨fun hP => .set (hxs.holds hP)⟩

instance {items : List DictItem} [h : Entails P (Unified items)] :
    Entails P (Unified (Expr.dict span items)) := ⟨fun hP => .dict (h.holds hP)⟩

instance [hx : Entails P (Unified x)] [hy : Entails P (Unified y)] :
    Entails P (Unified (DictItem.pair x y)) := ⟨fun hP => ⟨hx.holds hP, hy.holds hP⟩⟩

instance [hx : Entails P (Unified x)] : Entails P (Unified (DictItem.spread x)) := ⟨hx.holds⟩

instance [hx : Entails P (Unified x)] [hy : Entails P (Unified y)] [hcs : Entails P (Unified cs)] :
    Entails P (Unified (Expr.dictOf span x y cs)) :=
  ⟨fun hP => .dictOf (hx.holds hP) (hy.holds hP) (hcs.holds hP)⟩

instance (isAsync : Bool) [hx : Entails P (Unified x)] [hy : Entails P (Unified y)]
    [hxs : Entails P (Unified xs)] : Entails P (Unified (Clause.mk isAsync x y xs)) :=
  ⟨fun hP => ⟨hx.holds hP, hy.holds hP, hxs.holds hP⟩⟩

instance [hx : Entails P (Unified x)] : Entails P (Unified (Expr.await span x)) :=
  ⟨fun hP => .await (hx.holds hP)⟩

instance {o : Option Expr} [h : Entails P (Unified o)] : Entails P (Unified (Expr.yield span o)) :=
  ⟨fun hP => .yield (h.holds hP)⟩

instance [hx : Entails P (Unified x)] : Entails P (Unified (Expr.yieldFrom span x)) :=
  ⟨fun hP => .yieldFrom (hx.holds hP)⟩

instance {lower upper step : Option Expr} [hlower : Entails P (Unified lower)]
    [hupper : Entails P (Unified upper)] [hstep : Entails P (Unified step)] :
    Entails P (Unified (Expr.slice span lower upper step)) :=
  ⟨fun hP => .slice (hlower.holds hP) (hupper.holds hP) (hstep.holds hP)⟩

end

/-! ### Arguments and parameters -/

section
variable {P : Prop} {x : Expr} {xs : List Expr} {name : String}

instance {n : Option String} [hn : Entails P (Unified n)] [hx : Entails P (Unified x)] :
    Entails P (Unified (Keyword.mk n x)) := ⟨fun hP => ⟨hn.holds hP, hx.holds hP⟩⟩

instance {k : Keyword} [h : Entails P (Unified k)] : Entails P (Unified (LateArgument.keyword k)) :=
  ⟨fun hP => ⟨fun _ hk => Option.some.inj hk ▸ h.holds hP, nofun⟩⟩

instance [h : Entails P (Unified x)] : Entails P (Unified (LateArgument.starred x)) :=
  ⟨fun hP => ⟨nofun, fun _ hx => Option.some.inj hx ▸ h.holds hP⟩⟩

instance {late : List LateArgument} [h : Entails P (Unified late)] :
    Entails P (Unified (late.filterMap (·.starred?))) := by
  refine ⟨fun hP y hy => ?_⟩
  obtain ⟨a, ha, hy⟩ := List.mem_filterMap.1 hy
  exact (h.holds hP a ha).2 y hy

instance {late : List LateArgument} [h : Entails P (Unified late)] :
    Entails P (Unified (late.filterMap (·.keyword?))) := by
  refine ⟨fun hP k hk => ?_⟩
  obtain ⟨a, ha, hk⟩ := List.mem_filterMap.1 hk
  exact (h.holds hP a ha).1 k hk

instance (line : Nat) {ks : List Keyword} [hxs : Entails P (Unified xs)]
    [hks : Entails P (Unified ks)] : Entails P (Unified (Arguments.mk line xs ks)) :=
  ⟨fun hP => ⟨hxs.holds hP, hks.holds hP⟩⟩

instance {type default : Option Expr} [hname : Entails P (Unified name)]
    [htype : Entails P (Unified type)] [hdefault : Entails P (Unified default)] :
    Entails P (Unified (Param.mk name type default)) :=
  ⟨fun hP => ⟨hname.holds hP, htype.holds hP, hdefault.holds hP⟩⟩

instance {p : Param} {o : Option Expr} [hp : Entails P (Unified p)] [ho : Entails P (Unified o)] :
    Entails P (Unified (Param.withDefault p o)) := by
  obtain ⟨name, type, default⟩ := p
  exact ⟨fun hP => ⟨(hp.holds hP).1, (hp.holds hP).2.1, ho.holds hP⟩⟩

instance {v k : Option Param} {ks : List Param} [hv : Entails P (Unified v)]
    [hks : Entails P (Unified ks)] [hk : Entails P (Unified k)] :
    Entails P (Unified (StarPart.mk v ks k)) :=
  ⟨fun hP => ⟨hv.holds hP, hks.holds hP, hk.holds hP⟩⟩

instance {only both : List Param} {star : Option StarPart} [honly : Entails P (Unified only)]
    [hboth : Entails P (Unified both)] [hstar : Entails P (Unified star)] :
    Entails P (Unified (buildParams only both star)) := by
  refine ⟨fun hP => ?_⟩
  cases star with
  | none => exact ⟨honly.holds hP, hboth.holds hP, nofun, nofun, nofun⟩
  | some s =>
    obtain ⟨hv, hks, hk⟩ := hstar.holds hP s rfl
    exact ⟨honly.holds hP, hboth.holds hP, hv, hks, hk⟩

instance : Entails P (Unified (Params.mk [] [] none [] none)) :=
  ⟨fun _ => ⟨nofun, nofun, nofun, nofun, nofun⟩⟩

end

/-! ### Statements -/

section
variable {P : Prop} {span : Span} {x y : Expr} {xs : List Expr} {ss : List Stmt} {name : String}

instance (bases : List Expr) [hname : Entails P (Unified name)] [hss : Entails P (Unified ss)] :
    Entails P (Unified (Stmt.classDef span name xs bases ss)) :=
  ⟨fun hP => ⟨hname.holds hP, unifiedEach_iff.2 (hss.holds hP)⟩⟩

instance (value : Expr) [hxs : Entails P (Unified xs)] :
    Entails P (Unified (Stmt.assign span xs value)) := ⟨hxs.holds⟩

instance (value : Option Expr) [hx : Entails P (Unified x)] [hy : Entails P (Unified y)] :
    Entails P (Unified (Stmt.annotate span x y value)) := ⟨fun hP => ⟨hx.holds hP, hy.holds hP⟩⟩

instance (isAsync : Bool) (ps : Params) [hname : Entails P (Unified name)] :
    Entails P (Unified (Stmt.functionDef span isAsync name xs ps ss)) := ⟨hname.holds⟩

instance (names : List Alias) : Entails P (Unified (Stmt.importModules span names)) :=
  ⟨fun _ => trivial⟩

instance (level : Nat) (module : Option String) (names : List Alias) :
    Entails P (Unified (Stmt.importFrom span level module names)) := ⟨fun _ => trivial⟩

instance : Entails P (Unified (Stmt.evaluate span x)) := ⟨fun _ => trivial⟩
instance : Entails P (Unified (Stmt.compound span ss)) := ⟨fun _ => trivial⟩
instance : Entails P (Unified (Stmt.simple span)) := ⟨fun _ => trivial⟩

end
end Entails

/-! ## Readers -/

/-- What is promised of phrases: of tokens without carriage returns, a phrase is written without them. -/
def Phrase.unified : Phrase.Promise := fun tokens p a _ _ =>
  (∀ t ∈ tokens, Unified t) → (showsResult p).Unified a

/-- A reader whose results are written without carriage returns, if the tokens are and if `P` is the
    case. -/
class Reads (P : Prop) {α : Type} [Shows α] (p : Reading α) : Prop where
  gives : ∀ {e : Setting}, e.Keeps Phrase.unified → ∀ i, p.Gives Phrase.unified e i fun a _ =>
    (∀ t ∈ e.list.tokens, Unified t) → P → Unified a

namespace Reads

section
variable {P : Prop} {α β : Type} [Shows α] [Shows β] {p q : Reading α} {f : α → Reading β}

instance {a : α} [h : Entails P (Unified a)] : Reads P (pure a : Reading α) :=
  ⟨fun _ _ => .pure fun _ hP => h.holds hP⟩

instance [hp : Reads P p] [hf : ∀ a, Reads (P ∧ Unified a) (f a)] : Reads P (p >>= f) := by
  refine ⟨fun he i => (hp.gives he i).bind fun a j _ ha => ?_⟩
  exact ((hf a).gives he j).mono fun _ _ _ hb htokens hP => hb htokens ⟨hP, ha htokens hP⟩

instance : Reads P (absent : Reading α) := ⟨fun _ _ => .absent⟩

instance (line : Nat) : Reads P (refuseAt line : Reading α) := ⟨fun _ _ => .refuseAt line⟩

instance [hp : Reads P p] [hq : Reads P q] : Reads P (p <|> q) :=
  ⟨fun he i => (hp.gives he i).orElse (hq.gives he i)⟩

instance {q : Reading β} [hp : Reads P p] [hf : ∀ a, Reads (P ∧ Unified a) (f a)]
    [hq : Reads P q] : Reads P (commit p f q) := by
  refine ⟨fun he i => (hp.gives he i).commit (fun a j _ ha => ?_) (hq.gives he i)⟩
  exact ((hf a).gives he j).mono fun _ _ _ hb htokens hP => hb htokens ⟨hP, ha htokens hP⟩

instance [hp : Reads P p] : Reads P (option p) := by
  refine ⟨fun he i => .option ((hp.gives he i).mono fun a _ _ ha htokens hP => ?_) fun _ _ => nofun⟩
  exact fun _ hb => Option.some.inj hb ▸ ha htokens hP

instance {p : Reading Unit} [hp : Forward Phrase.unified p] : Reads P (trap p : Reading α) :=
  ⟨fun he i => .trap (hp.gives he i)⟩

instance [hp : Reads P p] : Reads P (many p) :=
  ⟨fun he _ => (Gives.many_all (fun _ _ _ _ h => h) fun j _ => hp.gives he j).mono
    fun _ _ _ has htokens hP a ha => has a ha htokens hP⟩

instance [hp : Reads P p] : Reads P (many1 p) :=
  ⟨fun he _ => (Gives.many1_all (fun _ _ _ _ h => h) fun j _ => hp.gives he j).mono
    fun _ _ _ has htokens hP a ha => has a ha htokens hP⟩

instance {separator : Reading β} [hseparator : Forward Phrase.unified separator] [hp : Reads P p] :
    Reads P (separated separator p) :=
  ⟨fun he _ => (Gives.separated_all (fun _ _ _ _ h => h) (fun j _ => hseparator.gives he j)
    fun j _ => hp.gives he j).mono fun _ _ _ has htokens hP a ha => has a ha htokens hP⟩

instance : Reads P peek := by
  refine ⟨fun _ _ => .peek fun t ht htokens _ => ?_⟩
  exact htokens t (Array.mem_of_getElem? ht)

instance (test : Token → Bool) : Reads P (tokenIf test) := by
  refine ⟨fun _ _ => .tokenIf fun t ht _ htokens _ => ?_⟩
  exact htokens t (Array.mem_of_getElem? ht)

instance {p : Reading (Span → α)} [hp : Reads P p] : Reads P (spanned p) :=
  ⟨fun he i => .spanned fun _ _ => (hp.gives he i).mono fun _ _ _ hbuild htokens hP =>
    hbuild htokens hP _⟩

/-- What is found without going on. -/
-- by itself a function of three arguments would not be recognized as a reader, so it stands behind one
instance {found : α → Setting → Nat → Notes → β} [hp : Reads P p]
    [hfound : ∀ a e i n, Entails (P ∧ Unified a) (Unified (found a e i n))] :
    Reads P (p >>= fun a => (fun e i n => .found (found a e i n) i n : Reading β)) :=
  ⟨fun he i => (hp.gives he i).bind fun a j _ ha n hn => ⟨hn, Nat.le_refl j, fun htokens hP =>
    (hfound a _ j n).holds ⟨hP, ha htokens hP⟩⟩⟩

/-- A reader with nothing to write only has to go forward. -/
instance (priority := high) [h : Mute α] [hp : Forward Phrase.unified p] : Reads P p :=
  ⟨fun he i => (hp.gives he i).mono fun a _ _ _ _ _ => h.unified a⟩

end

theorem phrase {P : Prop} (p : Phrase) : @Reads P _ (showsResult p) (Reading.phrase p) :=
  ⟨fun he _ => (Gives.phrase he p).mono fun _ _ _ ha htokens _ => ha htokens⟩

end Reads
end RecordLens.Code
