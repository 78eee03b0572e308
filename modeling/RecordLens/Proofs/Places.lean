import RecordLens.Declaration.FromCode
import RecordLens.Proofs.Outcome
/-!
Code without its places. What is read from a class body depends on the places of its statements only
where a line is told; so a body that is moved, or laid out in another way, declares the same.

* `Expr.unplaced`, `Stmt.unplaced`: code with all its places forgotten.
* `Expr.write_unplaced`: the canonical text of an expression does not know where it stands.
* `memberOf_unplaced`, `signatureOf_unplaced`, `modifiersIn_unplaced`: what a statement declares.
-/
namespace RecordLens

namespace Code

mutual

/-- An expression without its places. -/
def Expr.unplaced : Expr → Expr
  | .name _ id => .name default id
  | .literal _ value => .literal default value
  | .attribute _ value attr => .attribute default value.unplaced attr
  | .subscript _ value index => .subscript default value.unplaced index.unplaced
  | .starred _ value => .starred default value.unplaced
  | .call _ func args keywords =>
    .call default func.unplaced (unplacedEach args) (unplacedKeywords keywords)
  | .sign _ op operand => .sign default op operand.unplaced
  | .binary _ left op right => .binary default left.unplaced op right.unplaced
  | .logic _ op operands => .logic default op (unplacedEach operands)
  | .compare _ left rest => .compare default left.unplaced (unplacedComparisons rest)
  | .choice _ body test orElse => .choice default body.unplaced test.unplaced orElse.unplaced
  | .lambda _ params body => .lambda default params.unplaced body.unplaced
  | .assignment _ target value => .assignment default target.unplaced value.unplaced
  | .tuple _ items => .tuple default (unplacedEach items)
  | .list _ items => .list default (unplacedEach items)
  | .set _ items => .set default (unplacedEach items)
  | .dict _ items => .dict default (unplacedItems items)
  | .listOf _ item clauses => .listOf default item.unplaced (unplacedClauses clauses)
  | .setOf _ item clauses => .setOf default item.unplaced (unplacedClauses clauses)
  | .dictOf _ key value clauses =>
    .dictOf default key.unplaced value.unplaced (unplacedClauses clauses)
  | .generator _ item clauses => .generator default item.unplaced (unplacedClauses clauses)
  | .await _ value => .await default value.unplaced
  | .yield _ value => .yield default (unplacedOption value)
  | .yieldFrom _ value => .yieldFrom default value.unplaced
  | .slice _ lower upper step =>
    .slice default (unplacedOption lower) (unplacedOption upper) (unplacedOption step)
  | .formatted _ pieces => .formatted default (unplacedPieces pieces)

def unplacedEach : List Expr → List Expr
  | [] => []
  | e :: es => e.unplaced :: unplacedEach es

def unplacedOption : Option Expr → Option Expr
  | none => none
  | some e => some e.unplaced

def unplacedKeywords : List Keyword → List Keyword
  | [] => []
  | .mk name value :: rest => .mk name value.unplaced :: unplacedKeywords rest

def unplacedComparisons : List Comparison → List Comparison
  | [] => []
  | .mk op right :: rest => .mk op right.unplaced :: unplacedComparisons rest

def unplacedItems : List DictItem → List DictItem
  | [] => []
  | .pair key value :: rest => .pair key.unplaced value.unplaced :: unplacedItems rest
  | .spread value :: rest => .spread value.unplaced :: unplacedItems rest

def unplacedClauses : List Clause → List Clause
  | [] => []
  | .mk isAsync target iter conditions :: rest =>
    .mk isAsync target.unplaced iter.unplaced (unplacedEach conditions) :: unplacedClauses rest

/-- A parameter without its places. -/
def Param.unplaced : Param → Param
  | .mk name type default => .mk name (unplacedOption type) (unplacedOption default)

def unplacedParams : List Param → List Param
  | [] => []
  | p :: ps => p.unplaced :: unplacedParams ps

def unplacedParam : Option Param → Option Param
  | none => none
  | some p => some p.unplaced

/-- A list of parameters without its places. -/
def Params.unplaced : Params → Params
  | .mk positionalOnly positional variadic keywordOnly keywords =>
    .mk (unplacedParams positionalOnly) (unplacedParams positional) (unplacedParam variadic)
      (unplacedParams keywordOnly) (unplacedParam keywords)

/-- Pieces of formatted strings without their places. -/
def unplacedPieces : List Piece → List Piece
  | [] => []
  | .text ps :: rest => .text ps :: unplacedPieces rest
  | .field value conversion :: rest => .field value.unplaced conversion :: unplacedPieces rest
  | .fieldWith value conversion format :: rest =>
    .fieldWith value.unplaced conversion (unplacedPieces format) :: unplacedPieces rest

end

@[simp] theorem unplacedEach_eq (es : List Expr) : unplacedEach es = es.map Expr.unplaced := by
  induction es with
  | nil => rfl
  | cons e es ih => rw [unplacedEach, ih, List.map_cons]

@[simp] theorem unplacedParams_eq (ps : List Param) :
    unplacedParams ps = ps.map Param.unplaced := by
  induction ps with
  | nil => rfl
  | cons p ps ih => rw [unplacedParams, ih, List.map_cons]

@[simp] theorem unplacedParam_eq (p : Option Param) : unplacedParam p = p.map Param.unplaced := by
  cases p <;> rfl

/-! ## Canonical texts -/

/-- The space between an expression and the point behind it. -/
def Expr.spaceBeforePoint : Expr → String
  | .literal _ l => if l.needsSpace then " " else ""
  | _ => ""

theorem Expr.write_attribute (avoid : Bool) (level : Level) (span : Span) (value : Expr)
    (attr : String) :
    (Expr.attribute span value attr).write avoid level =
      (value.write avoid .atom).map (· ++ value.spaceBeforePoint ++ "." ++ attr) := by
  rw [Expr.write.eq_def]
  dsimp only
  cases value.write avoid .atom with
  | error fault => rfl
  | ok text => cases value <;> rfl

/-- The level of the place between the brackets of a subscript, where a tuple needs none of its
    own. -/
def Expr.indexLevel : Expr → Level
  | .tuple _ _ => .tuple
  | _ => .test

theorem Expr.write_subscript (avoid : Bool) (level : Level) (span : Span) (value index : Expr) :
    (Expr.subscript span value index).write avoid level = (do
      let text ← value.write avoid .atom
      let inner ← index.write avoid index.indexLevel
      return text ++ "[" ++ inner ++ "]") := by
  cases index with
  | tuple _ items =>
    simp only [Expr.write, indexLevel, bind_assoc, pure_bind]
    cases items <;> rfl
  | _ => rw [Expr.write.eq_def]; rfl

mutual

/-- The text of an expression does not depend on its place. -/
theorem Expr.write_unplaced (avoid : Bool) (level : Level) :
    ∀ e : Expr, e.unplaced.write avoid level = e.write avoid level
  | .name _ id => by simp only [Expr.unplaced, Expr.write]
  | .literal _ value => by simp only [Expr.unplaced, Expr.write]
  | .attribute _ value attr => by
    rw [Expr.unplaced, Expr.write_attribute, Expr.write_attribute, value.write_unplaced]
    cases value <;> rfl
  | .subscript _ value index => by
    have hlevel : index.unplaced.indexLevel = index.indexLevel := by cases index <;> rfl
    rw [Expr.unplaced, Expr.write_subscript, Expr.write_subscript, hlevel, value.write_unplaced,
      index.write_unplaced]
  | .starred _ value => by
    simp only [Expr.unplaced, Expr.write, value.write_unplaced]
  | .call _ func args keywords => by
    simp only [Expr.unplaced, Expr.write, func.write_unplaced, writeEach_unplaced _ _ args,
      writeKeywords_unplaced _ keywords]
  | .sign _ op operand => by
    simp only [Expr.unplaced, Expr.write, operand.write_unplaced]
  | .binary _ left op right => by
    simp only [Expr.unplaced, Expr.write, left.write_unplaced, right.write_unplaced]
  | .logic _ op operands => by
    simp only [Expr.unplaced, Expr.write, writeRising_unplaced _ _ operands]
  | .compare _ left rest => by
    simp only [Expr.unplaced, Expr.write, left.write_unplaced, writeComparisons_unplaced _ rest]
  | .choice _ body test orElse => by
    simp only [Expr.unplaced, Expr.write, body.write_unplaced, test.write_unplaced,
      orElse.write_unplaced]
  | .lambda _ params body => by
    simp only [Expr.unplaced, Expr.write, params.write_unplaced, body.write_unplaced]
  | .assignment _ target value => by
    simp only [Expr.unplaced, Expr.write, target.write_unplaced, value.write_unplaced]
  | .tuple _ items => by
    simp only [Expr.unplaced, Expr.write, writeEach_unplaced _ _ items]
    rw [unplacedEach_eq, List.isEmpty_map]
  | .list _ items => by
    simp only [Expr.unplaced, Expr.write, writeEach_unplaced _ _ items]
  | .set _ items => by
    simp only [Expr.unplaced, Expr.write, writeEach_unplaced _ _ items]
  | .dict _ items => by
    simp only [Expr.unplaced, Expr.write, writeDictItems_unplaced _ items]
  | .listOf _ item clauses => by
    simp only [Expr.unplaced, Expr.write, item.write_unplaced, writeClauses_unplaced _ clauses]
  | .setOf _ item clauses => by
    simp only [Expr.unplaced, Expr.write, item.write_unplaced, writeClauses_unplaced _ clauses]
  | .dictOf _ key value clauses => by
    simp only [Expr.unplaced, Expr.write, key.write_unplaced, value.write_unplaced,
      writeClauses_unplaced _ clauses]
  | .generator _ item clauses => by
    simp only [Expr.unplaced, Expr.write, item.write_unplaced, writeClauses_unplaced _ clauses]
  | .await _ value => by
    simp only [Expr.unplaced, Expr.write, value.write_unplaced]
  | .yield _ none => by simp only [Expr.unplaced, unplacedOption, Expr.write]
  | .yield _ (some value) => by
    simp only [Expr.unplaced, unplacedOption, Expr.write, value.write_unplaced]
  | .yieldFrom _ value => by
    simp only [Expr.unplaced, Expr.write, value.write_unplaced]
  | .slice _ lower upper step => by
    simp only [Expr.unplaced, Expr.write, writeOption_unplaced _ _ lower, writeOption_unplaced _ _ upper,
      writeOption_unplaced _ _ step]
  | .formatted _ pieces => by
    simp only [Expr.unplaced, Expr.write, writePieces_unplaced pieces]

theorem writeEach_unplaced (avoid : Bool) (level : Level) :
    ∀ es : List Expr, writeEach avoid level (unplacedEach es) = writeEach avoid level es
  | [] => rfl
  | e :: es => by
    simp only [unplacedEach, writeEach, e.write_unplaced, writeEach_unplaced avoid level es]

theorem writeRising_unplaced (avoid : Bool) (level : Level) :
    ∀ es : List Expr, writeRising avoid level (unplacedEach es) = writeRising avoid level es
  | [] => rfl
  | e :: es => by
    simp only [unplacedEach, writeRising, e.write_unplaced, writeRising_unplaced avoid level.next es]

theorem writeOption_unplaced (avoid : Bool) (before : String) :
    ∀ e : Option Expr, writeOption avoid before (unplacedOption e) = writeOption avoid before e
  | none => rfl
  | some e => by simp only [unplacedOption, writeOption, e.write_unplaced]

theorem writeKeywords_unplaced (avoid : Bool) :
    ∀ ks : List Keyword, writeKeywords avoid (unplacedKeywords ks) = writeKeywords avoid ks
  | [] => rfl
  | .mk name value :: rest => by
    simp only [unplacedKeywords, writeKeywords, value.write_unplaced,
      writeKeywords_unplaced avoid rest]

theorem writeComparisons_unplaced (avoid : Bool) : ∀ cs : List Comparison,
    writeComparisons avoid (unplacedComparisons cs) = writeComparisons avoid cs
  | [] => rfl
  | .mk op right :: rest => by
    simp only [unplacedComparisons, writeComparisons, right.write_unplaced,
      writeComparisons_unplaced avoid rest]

theorem writeDictItems_unplaced (avoid : Bool) :
    ∀ items : List DictItem, writeDictItems avoid (unplacedItems items) = writeDictItems avoid items
  | [] => rfl
  | .pair key value :: rest => by
    simp only [unplacedItems, writeDictItems, key.write_unplaced, value.write_unplaced,
      writeDictItems_unplaced avoid rest]
  | .spread value :: rest => by
    simp only [unplacedItems, writeDictItems, value.write_unplaced,
      writeDictItems_unplaced avoid rest]

theorem writeClauses_unplaced (avoid : Bool) :
    ∀ cs : List Clause, writeClauses avoid (unplacedClauses cs) = writeClauses avoid cs
  | [] => rfl
  | .mk isAsync target iter conditions :: rest => by
    simp only [unplacedClauses, writeClauses, target.write_unplaced, iter.write_unplaced,
      writeEach_unplaced avoid .disj conditions, writeClauses_unplaced avoid rest]

theorem Param.write_unplaced (avoid : Bool) :
    ∀ p : Param, p.unplaced.write avoid = p.write avoid
  | .mk name type default => by
    simp only [Param.unplaced, Param.write, writeOption_unplaced avoid ": " type,
      writeOption_unplaced avoid "=" default]

theorem writeParams_unplaced (avoid : Bool) :
    ∀ ps : List Param, writeParams avoid (unplacedParams ps) = writeParams avoid ps
  | [] => rfl
  | p :: ps => by
    simp only [unplacedParams, writeParams, p.write_unplaced, writeParams_unplaced avoid ps]

theorem writeParam_unplaced (avoid : Bool) (mark : String) :
    ∀ p : Option Param, writeParam avoid mark (unplacedParam p) = writeParam avoid mark p
  | none => rfl
  | some p => by simp only [unplacedParam, writeParam, p.write_unplaced]

theorem Params.write_unplaced (avoid : Bool) :
    ∀ ps : Params, ps.unplaced.write avoid = ps.write avoid
  | .mk positionalOnly positional variadic keywordOnly keywords => by
    simp only [Params.unplaced, Params.write, writeParams_unplaced avoid positionalOnly,
      writeParams_unplaced avoid positional, writeParam_unplaced avoid "*" variadic,
      writeParams_unplaced avoid keywordOnly, writeParam_unplaced avoid "**" keywords]

theorem writePieces_unplaced :
    ∀ ps : List Piece, writePieces (unplacedPieces ps) = writePieces ps
  | [] => rfl
  | .text ps :: rest => by
    simp only [unplacedPieces, writePieces, writePieces_unplaced rest]
  | .field value conversion :: rest => by
    simp only [unplacedPieces, writePieces, value.write_unplaced, writePieces_unplaced rest]
  | .fieldWith value conversion format :: rest => by
    simp only [unplacedPieces, writePieces, value.write_unplaced, writePieces_unplaced format,
      writePieces_unplaced rest]

end

mutual

/-- A statement without its places. -/
def Stmt.unplaced : Stmt → Stmt
  | .classDef _ name decorators bases body =>
    .classDef default name (decorators.map (·.unplaced)) (bases.map (·.unplaced))
      (unplacedBody body)
  | .functionDef _ isAsync name decorators params body =>
    .functionDef default isAsync name (decorators.map (·.unplaced)) params.unplaced
      (unplacedBody body)
  | .assign _ targets value => .assign default (targets.map (·.unplaced)) value.unplaced
  | .annotate _ target type value =>
    .annotate default target.unplaced type.unplaced (value.map (·.unplaced))
  | .importModules _ names => .importModules default names
  | .importFrom _ level module names => .importFrom default level module names
  | .evaluate _ value => .evaluate default value.unplaced
  | .compound _ body => .compound default (unplacedBody body)
  | .simple _ => .simple default

/-- Statements without their places. -/
def unplacedBody : List Stmt → List Stmt
  | [] => []
  | s :: ss => s.unplaced :: unplacedBody ss

end

end Code

open Code

/-! ## What is read from expressions -/

@[simp] theorem textOf_unplaced (e : Expr) : textOf e.unplaced = textOf e := by
  rw [textOf, Expr.text, Expr.write_unplaced, textOf, Expr.text]

@[simp] theorem tail?_unplaced (e : Expr) : e.unplaced.tail? = e.tail? := by
  cases e with
  | subscript _ value index => cases value <;> rfl
  | _ => rfl

@[simp] theorem valueKind_unplaced (e : Expr) : e.unplaced.valueKind = e.valueKind := by
  cases e with
  | sign _ op operand => cases op <;> cases operand <;> rfl
  | _ => rfl

@[simp] theorem classify_unplaced (e : Expr) : e.unplaced.classify = e.classify := by
  rw [Expr.classify, Expr.classify, textOf_unplaced, valueKind_unplaced]

@[simp] theorem string?_unplaced (e : Expr) : e.unplaced.string? = e.string? := by
  cases e with
  | literal _ value => cases value <;> simp [Expr.unplaced, Expr.string?]
  | _ => rfl

@[simp] theorem listedNames_unplaced (e : Expr) : listedNames e.unplaced = listedNames e := by
  cases e with
  | tuple _ items | list _ items | set _ items =>
    simp [Expr.unplaced, listedNames, List.filterMap_map]
  | literal _ value => exact congrArg Option.toList (string?_unplaced _)
  | _ => rfl

@[simp] theorem namesGiven_unplaced (value target : Expr) :
    namesGiven value.unplaced target.unplaced = namesGiven value target := by
  cases target with
  | name _ id => simp [Expr.unplaced, namesGiven]
  | _ => rfl

@[simp] theorem bindingOf_unplaced (e : Expr) : bindingOf e.unplaced = bindingOf e := by
  have htext := textOf_unplaced e
  cases e with
  | name _ id => rfl
  | _ =>
    exact congrArg (· >>= fun text => (pure ⟨text, false⟩ : Except SourceError Binding)) htext

/-! ## What a statement declares -/

/-- A member without its line. -/
def Member.unplaced (m : Member) : Member := { m with line := 0 }

/-- A constructor without its line. -/
def Signature.unplaced (s : Signature) : Signature := { s with line := 0 }

theorem modifiersIn_unplaced (s : Stmt) : modifiersIn s.unplaced = modifiersIn s := by
  cases s with
  | assign _ targets value =>
    simp [Stmt.unplaced, modifiersIn, List.flatMap_map]
  | annotate _ target type value =>
    cases value <;> simp [Stmt.unplaced, modifiersIn]
  | _ => rfl

theorem memberOf_unplaced (modifiers : String → List String) (s : Stmt) :
    memberOf modifiers s.unplaced = (memberOf modifiers s).map (·.map Member.unplaced) := by
  cases s with
  | annotate _ target type value =>
    cases target with
    | name _ id =>
      simp only [Stmt.unplaced, Expr.unplaced, memberOf, textOf_unplaced, tail?_unplaced]
      split
      · rfl
      · cases textOf type with
        | error fault => rfl
        | ok text =>
          cases value with
          | none => rfl
          | some value =>
            simp only [Option.map_some, Option.mapM_some, classify_unplaced]
            cases value.classify <;> rfl
    | _ => rfl
  | assign _ targets value =>
    have hbindings : (targets.map (·.unplaced)).mapM bindingOf = targets.mapM bindingOf := by
      simp only [List.mapM_map, Function.comp_def, bindingOf_unplaced]
    simp only [Stmt.unplaced, memberOf, hbindings, classify_unplaced]
    cases targets.mapM bindingOf with
    | error fault => rfl
    | ok bindings =>
      simp only [bind, Except.bind]
      split
      · rfl
      · cases value.classify <;> rfl
  | _ => rfl

theorem parameterOf_unplaced (stars : String) (kind : ParameterKind) (p : Param) :
    parameterOf stars kind p.unplaced = parameterOf stars kind p := by
  cases p with
  | mk name type default =>
    cases type with
    | none => rfl
    | some type => simp only [Param.unplaced, unplacedOption, parameterOf, Param.type, Param.name,
        textOf_unplaced]

theorem constructorParameters_unplaced (ps : Params) :
    constructorParameters ps.unplaced = constructorParameters ps := by
  cases ps with
  | mk positionalOnly positional variadic keywordOnly keywords =>
    have hplaces : ((positionalOnly.map Param.unplaced).map (·, ParameterKind.positionalOnly) ++
        (positional.map Param.unplaced).map (·, ParameterKind.positionalOrKeyword)) =
        (positionalOnly.map (·, ParameterKind.positionalOnly) ++
          positional.map (·, ParameterKind.positionalOrKeyword)).map
          fun place => (place.1.unplaced, place.2) := by
      simp only [List.map_append, List.map_map, Function.comp_def]
    simp only [Params.unplaced, unplacedParams_eq, unplacedParam_eq, constructorParameters, hplaces,
      ← List.map_drop, List.mapM_map, Function.comp_def, parameterOf_unplaced, Option.toList_map]

theorem signatureOf_functionDef_ne {span : Span} {isAsync : Bool} {name : String}
    {decorators : List Expr} {params : Params} {body : List Stmt} (h : name ≠ "__init__") :
    signatureOf (.functionDef span isAsync name decorators params body) = .ok none := by
  unfold signatureOf
  split
  · rename_i heq
    exact absurd (by injection heq) h
  · rfl

theorem signatureOf_unplaced (s : Stmt) :
    signatureOf s.unplaced = (signatureOf s).map (·.map Signature.unplaced) := by
  cases s with
  | functionDef _ isAsync name _ params _ =>
    cases isAsync with
    | true => rfl
    | false =>
      by_cases hname : name = "__init__"
      · subst hname
        simp only [Stmt.unplaced, signatureOf, constructorParameters_unplaced]
        cases constructorParameters params <;> rfl
      · rw [Stmt.unplaced, signatureOf_functionDef_ne hname, signatureOf_functionDef_ne hname]
        rfl
  | _ => rfl

end RecordLens
