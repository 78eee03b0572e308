import RecordLens.Proofs.Places
import RecordLens.Proofs.UnifiedText
/-!
Canonical texts without carriage returns. What is written between the parts of an expression holds none,
and strings are escaped; so the text of an expression holds none if those of its parts and its names
hold none. A formatted string asks nothing of its parts, since it is quoted as a whole.

* `Expr.Unified`: an expression that is written without carriage returns, and the same of the parts of
  expressions.
* `Expr.Unified.binary` and so on: one rule for each form of expression.
-/
namespace RecordLens.Code

open Text

/-! ## Parts of expressions -/

/-- An expression that is written without carriage returns. -/
def Expr.Unified (e : Expr) : Prop := ∀ avoid level, Yields (e.write avoid level) Text.Unified

/-- An argument whose texts are unified. -/
def Keyword.Unified (k : Keyword) : Prop := (∀ name ∈ k.name, Text.Unified name) ∧ k.value.Unified

/-- A comparison whose texts are unified. -/
def Comparison.Unified : Comparison → Prop
  | .mk _ right => right.Unified

/-- An item whose texts are unified. -/
def DictItem.Unified : DictItem → Prop
  | .pair key value => key.Unified ∧ value.Unified
  | .spread value => value.Unified

/-- A clause whose texts are unified. -/
def Clause.Unified : Clause → Prop
  | .mk _ target iter conditions => target.Unified ∧ iter.Unified ∧ ∀ e ∈ conditions, e.Unified

/-- A parameter whose texts are unified. -/
def Param.Unified : Param → Prop
  | .mk name type default =>
    Text.Unified name ∧ (∀ e ∈ type, e.Unified) ∧ ∀ e ∈ default, e.Unified

/-- A list of parameters whose texts are unified. -/
def Params.Unified : Params → Prop
  | .mk positionalOnly positional variadic keywordOnly keywords =>
    (∀ p ∈ positionalOnly, p.Unified) ∧ (∀ p ∈ positional, p.Unified) ∧ (∀ p ∈ variadic, p.Unified) ∧
      (∀ p ∈ keywordOnly, p.Unified) ∧ ∀ p ∈ keywords, p.Unified

variable {avoid : Bool} {level : Level}

theorem unified_bracketIf {c : Bool} {text : String} (h : Text.Unified text) :
    Text.Unified (bracketIf c text) := by
  unfold bracketIf
  exact unified_ite (by simp +decide [h]) h

theorem unified_tupleText {texts : List String} (h : AllUnified texts) :
    Text.Unified (tupleText texts) := by
  unfold tupleText
  split
  · exact unified_append.2 ⟨h _ List.mem_cons_self, by decide⟩
  · exact h.commaSeparated

@[simp] theorem SignOp.unified_text (op : SignOp) : Text.Unified op.text := by cases op <;> decide

@[simp] theorem BinaryOp.unified_text (op : BinaryOp) : Text.Unified op.text := by cases op <;> decide

@[simp] theorem LogicOp.unified_text (op : LogicOp) : Text.Unified op.text := by cases op <;> decide

@[simp] theorem CompareOp.unified_text (op : CompareOp) : Text.Unified op.text := by
  cases op <;> decide

theorem writeEach_yields {es : List Expr} (h : ∀ e ∈ es, e.Unified) :
    Yields (writeEach avoid level es) AllUnified := by
  induction es with
  | nil => exact .ok .nil
  | cons e es ih =>
    obtain ⟨he, hes⟩ := List.forall_mem_cons.1 h
    rw [writeEach]
    exact (he avoid level).bind fun _ htext => (ih hes).bind fun _ htexts => .ok (.cons htext htexts)

theorem writeRising_yields {es : List Expr} (h : ∀ e ∈ es, e.Unified) :
    Yields (writeRising avoid level es) AllUnified := by
  induction es generalizing level with
  | nil => exact .ok .nil
  | cons e es ih =>
    obtain ⟨he, hes⟩ := List.forall_mem_cons.1 h
    rw [writeRising]
    exact (he avoid _).bind fun _ htext => (ih hes).bind fun _ htexts => .ok (.cons htext htexts)

theorem writeOption_yields {before : String} (hbefore : Text.Unified before) {e : Option Expr}
    (h : ∀ x ∈ e, x.Unified) : Yields (writeOption avoid before e) Text.Unified := by
  cases e with
  | none => exact .ok (by decide)
  | some e =>
    rw [writeOption]
    exact (h e rfl avoid _).bind fun _ htext => .ok (unified_append.2 ⟨hbefore, htext⟩)

theorem writeKeywords_yields {ks : List Keyword} (h : ∀ k ∈ ks, k.Unified) :
    Yields (writeKeywords avoid ks) AllUnified := by
  induction ks with
  | nil => exact .ok .nil
  | cons k ks ih =>
    obtain ⟨⟨hname, hvalue⟩, hks⟩ := List.forall_mem_cons.1 h
    obtain ⟨name, value⟩ := k
    rw [writeKeywords]
    refine (hvalue avoid _).bind fun _ htext => (ih hks).bind fun _ htexts => .ok (.cons ?_ htexts)
    cases name with
    | none => simp +decide [htext]
    | some name => simp +decide [htext, hname name rfl]

theorem writeComparisons_yields {cs : List Comparison} (h : ∀ c ∈ cs, c.Unified) :
    Yields (writeComparisons avoid cs) Text.Unified := by
  induction cs with
  | nil => exact .ok (by decide)
  | cons c cs ih =>
    obtain ⟨hright, hcs⟩ := List.forall_mem_cons.1 h
    obtain ⟨op, right⟩ := c
    rw [writeComparisons]
    exact (hright avoid _).bind fun _ htext => (ih hcs).bind fun _ hrest =>
      .ok (by simp +decide [htext, hrest])

theorem writeDictItems_yields {items : List DictItem} (h : ∀ i ∈ items, i.Unified) :
    Yields (writeDictItems avoid items) AllUnified := by
  induction items with
  | nil => exact .ok .nil
  | cons i items ih =>
    obtain ⟨hi, hitems⟩ := List.forall_mem_cons.1 h
    cases i with
    | pair key value =>
      rw [writeDictItems]
      exact (hi.1 avoid _).bind fun _ hkey => (hi.2 avoid _).bind fun _ hvalue =>
        (ih hitems).bind fun _ htexts => .ok (.cons (by simp +decide [hkey, hvalue]) htexts)
    | spread value =>
      rw [writeDictItems]
      exact (hi avoid _).bind fun _ hvalue => (ih hitems).bind fun _ htexts =>
        .ok (.cons (by simp +decide [hvalue]) htexts)

theorem writeClauses_yields {cs : List Clause} (h : ∀ c ∈ cs, c.Unified) :
    Yields (writeClauses avoid cs) Text.Unified := by
  induction cs with
  | nil => exact .ok (by decide)
  | cons c cs ih =>
    obtain ⟨hc, hcs⟩ := List.forall_mem_cons.1 h
    obtain ⟨isAsync, target, iter, conditions⟩ := c
    obtain ⟨htarget, hiter, hconditions⟩ := hc
    rw [writeClauses]
    refine (htarget avoid _).bind fun _ ht => (hiter avoid _).bind fun _ hi =>
      (writeEach_yields hconditions).bind fun texts htexts => (ih hcs).bind fun _ hrest => .ok ?_
    have hif : Text.Unified (String.join (texts.map (" if " ++ ·))) := by
      refine unified_join fun s hs => ?_
      obtain ⟨text, htext, rfl⟩ := List.mem_map.1 hs
      exact unified_append.2 ⟨by decide, htexts text htext⟩
    cases isAsync <;> simp +decide [ht, hi, hif, hrest]

theorem Param.write_yields {p : Param} (h : p.Unified) : Yields (p.write avoid) Text.Unified := by
  obtain ⟨name, type, default⟩ := p
  obtain ⟨hname, htype, hdefault⟩ := h
  rw [Param.write]
  exact (writeOption_yields (by decide) htype).bind fun _ ha =>
    (writeOption_yields (by decide) hdefault).bind fun _ hd => .ok (by simp [hname, ha, hd])

theorem writeParams_yields {ps : List Param} (h : ∀ p ∈ ps, p.Unified) :
    Yields (writeParams avoid ps) AllUnified := by
  induction ps with
  | nil => exact .ok .nil
  | cons p ps ih =>
    obtain ⟨hp, hps⟩ := List.forall_mem_cons.1 h
    rw [writeParams]
    exact (Param.write_yields hp).bind fun _ htext => (ih hps).bind fun _ htexts =>
      .ok (.cons htext htexts)

theorem writeParam_yields {mark : String} (hmark : Text.Unified mark) {p : Option Param}
    (h : ∀ x ∈ p, x.Unified) : Yields (writeParam avoid mark p) AllUnified := by
  cases p with
  | none => exact .ok .nil
  | some p =>
    rw [writeParam]
    exact (Param.write_yields (h p rfl)).bind fun _ htext =>
      .ok (.singleton (unified_append.2 ⟨hmark, htext⟩))

theorem Params.write_yields {ps : Params} (h : ps.Unified) : Yields (ps.write avoid) Text.Unified := by
  obtain ⟨positionalOnly, positional, variadic, keywordOnly, keywords⟩ := ps
  obtain ⟨honly, hboth, hstar, hnamed, hrest⟩ := h
  rw [Params.write]
  refine (writeParams_yields honly).bind fun only honly =>
    (writeParams_yields hboth).bind fun both hboth =>
    (writeParam_yields (by decide) hstar).bind fun star hstar =>
    (writeParams_yields hnamed).bind fun named hnamed =>
    (writeParam_yields (by decide) hrest).bind fun rest hrest => .ok (AllUnified.commaSeparated ?_)
  refine ((((honly.append ?_).append hboth).append ?_).append hnamed).append hrest
  · split
    · exact .nil
    · exact .singleton (by decide)
  · split
    · exact .singleton (by decide)
    · exact hstar

/-! ## Forms of expressions -/

namespace Expr.Unified

variable {span : Span} {x y z : Expr} {xs : List Expr} {cs : List Clause}

theorem name {id : String} (h : Text.Unified id) : (Expr.name span id).Unified := by
  intro avoid level
  rw [Expr.write]
  exact .ok h

theorem literal (value : Literal) : (Expr.literal span value).Unified := by
  intro avoid level
  rw [Expr.write]
  exact fun _ h => unified_literal h

theorem attributeOf {attr : String} (hx : x.Unified) (hattr : Text.Unified attr) :
    (Expr.attribute span x attr).Unified := by
  intro avoid level
  rw [Expr.write_attribute]
  refine (hx avoid _).map fun _ htext => ?_
  have hspace : Text.Unified x.spaceBeforePoint := by
    unfold spaceBeforePoint
    split
    · exact unified_ite (by decide) (by decide)
    · decide
  simp +decide [htext, hspace, hattr]

theorem subscript (hx : x.Unified) (hy : y.Unified) : (Expr.subscript span x y).Unified := by
  intro avoid level
  rw [Expr.write_subscript]
  exact (hx avoid _).bind fun _ htext => (hy avoid _).bind fun _ hinner =>
    .ok (by simp +decide [htext, hinner])

theorem starred (hx : x.Unified) : (Expr.starred span x).Unified := by
  intro avoid level
  rw [Expr.write]
  exact (hx avoid _).bind fun _ htext => .ok (by simp +decide [htext])

theorem call {ks : List Keyword} (hx : x.Unified) (hxs : ∀ e ∈ xs, e.Unified)
    (hks : ∀ k ∈ ks, k.Unified) : (Expr.call span x xs ks).Unified := by
  intro avoid level
  rw [Expr.write]
  exact (hx avoid _).bind fun _ htext => (writeEach_yields hxs).bind fun _ hargs =>
    (writeKeywords_yields hks).bind fun _ hkeywords =>
    .ok (by simp +decide [htext, (hargs.append hkeywords).commaSeparated])

theorem sign {op : SignOp} (hx : x.Unified) : (Expr.sign span op x).Unified := by
  intro avoid level
  rw [Expr.write]
  exact (hx avoid _).bind fun _ htext => .ok (unified_bracketIf (by simp [htext]))

theorem binary {op : BinaryOp} (hx : x.Unified) (hy : y.Unified) :
    (Expr.binary span x op y).Unified := by
  intro avoid level
  rw [Expr.write]
  exact (hx avoid _).bind fun _ hl => (hy avoid _).bind fun _ hr =>
    .ok (unified_bracketIf (by simp +decide [hl, hr]))

theorem logic {op : LogicOp} (hxs : ∀ e ∈ xs, e.Unified) : (Expr.logic span op xs).Unified := by
  intro avoid level
  rw [Expr.write]
  exact (writeRising_yields hxs).bind fun _ htexts =>
    .ok (unified_bracketIf (unified_intercalate op.unified_text htexts))

theorem compare {rest : List Comparison} (hx : x.Unified) (hrest : ∀ c ∈ rest, c.Unified) :
    (Expr.compare span x rest).Unified := by
  intro avoid level
  rw [Expr.write]
  exact (hx avoid _).bind fun _ hl => (writeComparisons_yields hrest).bind fun _ hr =>
    .ok (unified_bracketIf (by simp [hl, hr]))

theorem choice (hx : x.Unified) (hy : y.Unified) (hz : z.Unified) :
    (Expr.choice span x y z).Unified := by
  intro avoid level
  rw [Expr.write]
  exact (hx avoid _).bind fun _ hb => (hy avoid _).bind fun _ ht => (hz avoid _).bind fun _ he =>
    .ok (unified_bracketIf (by simp +decide [hb, ht, he]))

theorem lambda {ps : Params} (hps : ps.Unified) (hx : x.Unified) :
    (Expr.lambda span ps x).Unified := by
  intro avoid level
  rw [Expr.write]
  refine (Params.write_yields hps).bind fun _ hparams => (hx avoid _).bind fun _ hbody =>
    .ok (unified_bracketIf ?_)
  simp +decide [hparams, hbody, unified_ite]

theorem assignment (hx : x.Unified) (hy : y.Unified) : (Expr.assignment span x y).Unified := by
  intro avoid level
  rw [Expr.write]
  exact (hx avoid _).bind fun _ ht => (hy avoid _).bind fun _ hv =>
    .ok (unified_bracketIf (by simp +decide [ht, hv]))

theorem tuple (hxs : ∀ e ∈ xs, e.Unified) : (Expr.tuple span xs).Unified := by
  intro avoid level
  rw [Expr.write]
  exact (writeEach_yields hxs).bind fun _ htexts => .ok (unified_bracketIf (unified_tupleText htexts))

theorem list (hxs : ∀ e ∈ xs, e.Unified) : (Expr.list span xs).Unified := by
  intro avoid level
  rw [Expr.write]
  exact (writeEach_yields hxs).bind fun _ htexts => .ok (by simp +decide [htexts.commaSeparated])

theorem set (hxs : ∀ e ∈ xs, e.Unified) : (Expr.set span xs).Unified := by
  intro avoid level
  rw [Expr.write]
  exact (writeEach_yields hxs).bind fun _ htexts => .ok (by simp +decide [htexts.commaSeparated])

theorem dict {items : List DictItem} (h : ∀ i ∈ items, i.Unified) :
    (Expr.dict span items).Unified := by
  intro avoid level
  rw [Expr.write]
  exact (writeDictItems_yields h).bind fun _ htexts => .ok (by simp +decide [htexts.commaSeparated])

theorem listOf (hx : x.Unified) (hcs : ∀ c ∈ cs, c.Unified) : (Expr.listOf span x cs).Unified := by
  intro avoid level
  rw [Expr.write]
  exact (hx avoid _).bind fun _ hitem => (writeClauses_yields hcs).bind fun _ hclauses =>
    .ok (by simp +decide [hitem, hclauses])

theorem setOf (hx : x.Unified) (hcs : ∀ c ∈ cs, c.Unified) : (Expr.setOf span x cs).Unified := by
  intro avoid level
  rw [Expr.write]
  exact (hx avoid _).bind fun _ hitem => (writeClauses_yields hcs).bind fun _ hclauses =>
    .ok (by simp +decide [hitem, hclauses])

theorem dictOf (hx : x.Unified) (hy : y.Unified) (hcs : ∀ c ∈ cs, c.Unified) :
    (Expr.dictOf span x y cs).Unified := by
  intro avoid level
  rw [Expr.write]
  exact (hx avoid _).bind fun _ hkey => (hy avoid _).bind fun _ hvalue =>
    (writeClauses_yields hcs).bind fun _ hclauses => .ok (by simp +decide [hkey, hvalue, hclauses])

theorem generator (hx : x.Unified) (hcs : ∀ c ∈ cs, c.Unified) :
    (Expr.generator span x cs).Unified := by
  intro avoid level
  rw [Expr.write]
  exact (hx avoid _).bind fun _ hitem => (writeClauses_yields hcs).bind fun _ hclauses =>
    .ok (by simp +decide [hitem, hclauses])

theorem await (hx : x.Unified) : (Expr.await span x).Unified := by
  intro avoid level
  rw [Expr.write]
  exact (hx avoid _).bind fun _ htext => .ok (unified_bracketIf (by simp +decide [htext]))

theorem yield {value : Option Expr} (h : ∀ e ∈ value, e.Unified) :
    (Expr.yield span value).Unified := by
  intro avoid level
  cases value with
  | none =>
    rw [Expr.write]
    exact .ok (unified_bracketIf (by decide))
  | some x =>
    rw [Expr.write]
    exact (h x rfl avoid _).bind fun _ htext => .ok (unified_bracketIf (by simp +decide [htext]))

theorem yieldFrom (hx : x.Unified) : (Expr.yieldFrom span x).Unified := by
  intro avoid level
  rw [Expr.write]
  exact (hx avoid _).bind fun _ htext => .ok (unified_bracketIf (by simp +decide [htext]))

theorem slice {lower upper step : Option Expr} (hlower : ∀ e ∈ lower, e.Unified)
    (hupper : ∀ e ∈ upper, e.Unified) (hstep : ∀ e ∈ step, e.Unified) :
    (Expr.slice span lower upper step).Unified := by
  intro avoid level
  rw [Expr.write]
  exact (writeOption_yields (by decide) hlower).bind fun _ hl =>
    (writeOption_yields (by decide) hupper).bind fun _ hu =>
    (writeOption_yields (by decide) hstep).bind fun _ hs => .ok (by simp +decide [hl, hu, hs])

theorem formatted (pieces : List Piece) : (Expr.formatted span pieces).Unified := by
  intro avoid level text h
  rw [Expr.write] at h
  obtain ⟨written, -, h⟩ := bind_eq_ok.1 h
  split at h
  · obtain rfl := Except.ok.inj h
    exact unified_append.2 ⟨by decide, unified_ofPoints (not_mem_plainText _)⟩
  · obtain rfl := Except.ok.inj h
    exact unified_append.2 ⟨by decide, unified_ofPoints (not_mem_joinPieces _)⟩

end Expr.Unified

end RecordLens.Code
