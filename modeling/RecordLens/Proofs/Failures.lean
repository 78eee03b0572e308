import RecordLens.Proofs.FieldInsertions
import RecordLens.Proofs.WrittenFiles
/-!
How a text is refused. A text that is no code, or has the body of a declared definition on the line of
its head, is refused with its name and a line, and commands report that. Three other things go wrong, and
each of them exactly under a condition on the text: it holds a null character, an expression that has to
be written out for a declaration has no canonical text, or a character of a line would be cut.

* `SourceError.Reported`, `Answers`: faults with the name of the file and a line, and computations that
  fail with no other ones.
* `WritesOut`: a computation that succeeds if and only if expressions have canonical texts, with one
  rule for each way of building it and one lemma for each function that reads declarations.
* `AnswersIf`: a computation that fails with no other ones if and only if a condition holds.
* `parseAll_answersIf`, `expand_answersIf`: the texts that are refused in no other way.
* `refusals_reported_iff`: these, and what commands do with a text that is refused.
-/
namespace RecordLens

open Code

variable {α β γ : Type} {filename text : String}

/-! ## Faults -/

/-- A fault that tells the name of the file and a line. -/
def SourceError.Reported (filename : String) : SourceError → Prop
  | .malformed name _ | .bodyOnHeadLine name _ _ => name = filename
  | _ => False

/-- A fault without a line. -/
def SourceError.Unplaced : SourceError → Prop
  | .nullCharacter | .unwritable _ | .cutCharacter => True
  | _ => False

/-- A computation that fails with reported faults only. -/
def Answers (filename : String) (c : Except SourceError α) : Prop :=
  ∀ fault, c = .error fault → fault.Reported filename

/-- A computation that answers where `P` holds, and fails without a line elsewhere. -/
def AnswersIf (filename : String) (P : Prop) (c : Except SourceError α) : Prop :=
  (P ∧ Answers filename c) ∨ (¬P ∧ ∃ fault, c = .error fault ∧ fault.Unplaced)

theorem answers_ok (a : α) : Answers filename (.ok a) := fun _ h => absurd h.symm error_ne_ok

theorem answers_error_iff {fault : SourceError} :
    Answers filename (.error fault : Except SourceError α) ↔ fault.Reported filename :=
  ⟨fun h => h fault rfl, fun h _ heq => Except.error.inj heq ▸ h⟩

theorem SourceError.Unplaced.not_reported {fault : SourceError} (h : fault.Unplaced) :
    ¬fault.Reported filename := by
  cases fault with
  | malformed _ _ | bodyOnHeadLine _ _ _ => exact h.elim
  | _ => exact id

namespace AnswersIf

variable {P Q : Prop} {c : Except SourceError α} {fault : SourceError}

theorem iff (h : AnswersIf filename P c) : Answers filename c ↔ P := by
  rcases h with ⟨hP, hanswers⟩ | ⟨hP, fault, rfl, hunplaced⟩
  · exact iff_of_true hanswers hP
  · rw [answers_error_iff]
    exact iff_of_false hunplaced.not_reported hP

theorem congr (h : AnswersIf filename P c) (hiff : P ↔ Q) : AnswersIf filename Q c := by
  rwa [AnswersIf, ← hiff]

theorem pass (h : AnswersIf filename P c) (f : α → β) :
    AnswersIf filename P (c >>= fun a => .ok (f a)) := by
  refine h.imp ?_ ?_
  · rintro ⟨hP, hanswers⟩
    refine ⟨hP, fun fault hfault => hanswers fault ?_⟩
    rcases bind_eq_error.1 hfault with hfault | ⟨a, -, hok⟩
    · exact hfault
    · exact absurd hok.symm error_ne_ok
  · rintro ⟨hP, fault, rfl, hunplaced⟩
    exact ⟨hP, fault, rfl, hunplaced⟩

theorem fault_cases (h : AnswersIf filename P c) (hfault : c = .error fault) :
    fault.Reported filename ∨ fault.Unplaced := by
  rcases h with ⟨-, hanswers⟩ | ⟨-, fault', hsame, hunplaced⟩
  · exact .inl (hanswers fault hfault)
  · obtain rfl := Except.error.inj (hfault.symm.trans hsame)
    exact .inr hunplaced

end AnswersIf

/-! ## Writing out -/

/-- An expression has a canonical text. -/
def Code.Expr.Writable (x : Expr) : Prop := ∃ text, x.text = .ok text

instance (x : Expr) : Decidable x.Writable :=
  match h : x.text with
  | .ok text => isTrue ⟨text, h⟩
  | .error _ => isFalse fun ⟨_, hsome⟩ => error_ne_ok (h.symm.trans hsome)

/-- A computation that writes out expressions: it succeeds where all of them have a canonical text, and
    fails for want of one where some have none. -/
def WritesOut (c : Except SourceError α) (xs : List Expr) : Prop :=
  ((∀ x ∈ xs, x.Writable) ∧ ∃ a, c = .ok a) ∨
    (∃ x ∈ xs, ¬x.Writable) ∧ ∃ why, c = .error (.unwritable why)

namespace WritesOut

variable {c : Except SourceError α} {xs ys : List Expr}

theorem ok (a : α) : WritesOut (.ok a) [] := .inl ⟨List.forall_mem_nil _, a, rfl⟩

theorem textOf (x : Expr) : WritesOut (textOf x) [x] := by
  unfold RecordLens.textOf
  cases htext : x.text with
  | ok text => exact .inl ⟨List.forall_mem_singleton.2 ⟨text, htext⟩, text, rfl⟩
  | error why =>
    refine .inr ⟨⟨x, List.mem_singleton_self x, ?_⟩, why, rfl⟩
    rintro ⟨text, hsome⟩
    exact error_ne_ok (htext.symm.trans hsome)

theorem bind {f : α → Except SourceError β} (hc : WritesOut c xs)
    (hf : ∀ a, c = .ok a → WritesOut (f a) ys) : WritesOut (c >>= f) (xs ++ ys) := by
  rcases hc with ⟨hall, a, rfl⟩ | ⟨⟨x, hx, hnot⟩, why, rfl⟩
  · rcases hf a rfl with ⟨hrest, b, hb⟩ | ⟨⟨y, hy, hnot⟩, why, hfault⟩
    · exact .inl ⟨List.forall_mem_append.2 ⟨hall, hrest⟩, b, hb⟩
    · exact .inr ⟨⟨y, List.mem_append_right xs hy, hnot⟩, why, hfault⟩
  · exact .inr ⟨⟨x, List.mem_append_left ys hx, hnot⟩, why, rfl⟩

theorem pass (hc : WritesOut c xs) (f : α → β) : WritesOut (c >>= fun a => .ok (f a)) xs := by
  have h := hc.bind (f := fun a => .ok (f a)) fun a _ => ok (f a)
  rwa [List.append_nil] at h

theorem mapM {f : γ → Except SourceError β} {written : γ → List Expr} {l : List γ}
    (hf : ∀ a ∈ l, WritesOut (f a) (written a)) : WritesOut (l.mapM f) (l.flatMap written) := by
  induction l with
  | nil => exact ok []
  | cons a l ih =>
    rw [List.mapM_cons, List.flatMap_cons]
    have hrest := ih fun a' ha' => hf a' (List.mem_cons_of_mem a ha')
    exact (hf a List.mem_cons_self).bind fun b _ => hrest.pass (b :: ·)

theorem option {f : Expr → Except SourceError β} (hf : ∀ x, WritesOut (f x) [x]) (x : Option Expr) :
    WritesOut (x.mapM f) x.toList := by
  cases x with
  | none => exact ok none
  | some x => exact (hf x).pass some

end WritesOut

/-! ## Members -/

/-- Whether an expression is a name that begins and ends with two underscores. -/
def isReservedName : Expr → Bool
  | .name _ id => isReserved id
  | _ => false

/-- What is written out for a target of an assignment: a pattern, but no name. -/
def writtenForTarget : Expr → List Expr
  | .name _ _ => []
  | x => [x]

/-- The expressions that are written out for the member that a statement declares. -/
def writtenForMember : Stmt → List Expr
  | .annotate _ (.name _ id) type value => if isReserved id then [] else type :: value.toList
  | .assign _ targets value =>
    targets.flatMap writtenForTarget ++ if targets.any isReservedName then [] else [value]
  | _ => []

theorem classify_writesOut (x : Expr) : WritesOut x.classify [x] := (WritesOut.textOf x).pass _

theorem bindingOf_writesOut (target : Expr) :
    WritesOut (bindingOf target) (writtenForTarget target) := by
  unfold bindingOf
  split
  · exact .ok _
  next hname =>
    rw [writtenForTarget]
    · exact (WritesOut.textOf target).pass _
    · exact hname

theorem reserved_of_bindingOf {target : Expr} {b : Binding} (h : bindingOf target = .ok b) :
    (b.isIdentifier && isReserved b.text) = isReservedName target := by
  unfold bindingOf at h
  split at h
  · obtain rfl := Except.ok.inj h
    exact Bool.true_and _
  next hname =>
    obtain ⟨text, -, h⟩ := bind_eq_ok.1 h
    obtain rfl := Except.ok.inj h
    rw [isReservedName]
    · exact Bool.false_and _
    · exact hname

theorem any_reserved_of_mapM {targets : List Expr} {bindings : List Binding}
    (h : targets.mapM bindingOf = .ok bindings) :
    (bindings.any fun b => b.isIdentifier && isReserved b.text) = targets.any isReservedName := by
  have hall := mapM_eq_ok_iff.1 h
  clear h
  induction hall with
  | nil => rfl
  | cons hbinding _ ih => rw [List.any_cons, List.any_cons, ih, reserved_of_bindingOf hbinding]

theorem memberOf_writesOut (modifiers : String → List String) (s : Stmt) :
    WritesOut (memberOf modifiers s) (writtenForMember s) := by
  cases s with
  | annotate span target type value =>
    cases target with
    | name place id =>
      rw [memberOf, writtenForMember]
      split
      · exact .ok none
      · exact (WritesOut.textOf type).bind fun _ _ =>
          (WritesOut.option classify_writesOut value).pass _
    | _ => exact .ok none
  | assign span targets value =>
    rw [memberOf, writtenForMember]
    -- the targets are written out before it is known that one of them is reserved
    refine (WritesOut.mapM fun target _ => bindingOf_writesOut target).bind fun bindings hbindings => ?_
    rw [any_reserved_of_mapM hbindings]
    split
    · exact .ok none
    · exact (classify_writesOut value).pass _
  | _ => exact .ok none

theorem membersOf_writesOut (body : List Stmt) :
    WritesOut (membersOf body) (body.flatMap writtenForMember) :=
  (WritesOut.mapM fun s _ => memberOf_writesOut _ s).pass _

/-! ## Constructors -/

/-- The parameters of a constructor behind the first one, which is the record itself. -/
def Code.Params.passed : Params → List Param
  | .mk positionalOnly positional variadic keywordOnly keywords =>
    (positionalOnly ++ positional).drop 1 ++ variadic.toList ++ keywordOnly ++ keywords.toList

/-- The type that is written out for a parameter. -/
def writtenForParameter (p : Param) : List Expr := p.type.toList

/-- The types that are written out for the constructor that a statement defines. -/
def writtenForSignature : Stmt → List Expr
  | .functionDef _ false "__init__" _ params _ => params.passed.flatMap writtenForParameter
  | _ => []

theorem parameterOf_writesOut (stars : String) (kind : ParameterKind) (p : Param) :
    WritesOut (parameterOf stars kind p) (writtenForParameter p) := by
  unfold parameterOf writtenForParameter
  cases p.type with
  | none => exact .ok _
  | some type => exact (WritesOut.textOf type).pass _

theorem constructorParameters_writesOut (params : Params) :
    WritesOut (constructorParameters params) (params.passed.flatMap writtenForParameter) := by
  obtain ⟨positionalOnly, positional, variadic, keywordOnly, keywords⟩ := params
  -- the first place is dropped together with its kind, whichever of the two lists it is from
  have hplaces : ((positionalOnly.map (·, ParameterKind.positionalOnly) ++
      positional.map (·, ParameterKind.positionalOrKeyword)).drop 1).flatMap
        (fun place => writtenForParameter place.1) =
      ((positionalOnly ++ positional).drop 1).flatMap writtenForParameter := by
    rw [← List.flatMap_map Prod.fst writtenForParameter, List.map_drop, List.map_append,
      List.map_map, List.map_map]
    exact congrArg (fun ps => (ps.drop 1).flatMap writtenForParameter)
      (congrArg₂ (· ++ ·) (List.map_id _) (List.map_id _))
  rw [constructorParameters, Params.passed, List.flatMap_append, List.flatMap_append,
    List.flatMap_append, ← hplaces, List.append_assoc, List.append_assoc]
  refine (WritesOut.mapM fun place _ => parameterOf_writesOut _ _ place.1).bind fun front _ => ?_
  refine (WritesOut.mapM fun p _ => parameterOf_writesOut _ _ p).bind fun star _ => ?_
  refine (WritesOut.mapM fun p _ => parameterOf_writesOut _ _ p).bind fun named _ => ?_
  exact (WritesOut.mapM fun p _ => parameterOf_writesOut _ _ p).pass _

theorem signatureOf_writesOut (s : Stmt) : WritesOut (signatureOf s) (writtenForSignature s) := by
  unfold signatureOf
  split
  · exact (constructorParameters_writesOut _).pass _
  next hother =>
    rw [writtenForSignature]
    · exact .ok none
    · exact hother

theorem signaturesOf_writesOut (body : List Stmt) :
    WritesOut (signaturesOf body) (body.flatMap writtenForSignature) :=
  (WritesOut.mapM fun s _ => signatureOf_writesOut s).pass _

/-! ## Definitions -/

/-- Whether the first statement of a body is on the line of the head. -/
def bodyOnHead (head : Span) : List Stmt → Bool
  | [] => false
  | first :: _ => first.span.line = head.line

/-- Whether the body of a definition starts on the line of its head. -/
def startsOnHead : Stmt → Bool
  | .classDef span _ _ _ body | .functionDef span _ _ _ _ body => bodyOnHead span body
  | _ => false

/-- The expressions of a definition that are written out. -/
def writtenOut : Stmt → List Expr
  | .classDef _ _ _ _ body => body.flatMap writtenForMember ++ body.flatMap writtenForSignature
  | _ => []

section

variable (filename : String) (lines : List String) (path : String) {s : Stmt}

theorem bodyIndent_of_onHead (name : String) {head : Span} {body : List Stmt}
    (h : bodyOnHead head body = true) : bodyIndent filename head name body lines =
      .error (.bodyOnHeadLine filename head.line name) := by
  cases body with
  | nil => exact absurd h Bool.false_ne_true
  | cons first rest => exact if_pos (of_decide_eq_true h)

theorem bodyIndent_of_not_onHead (name : String) {head : Span} {body : List Stmt}
    (h : bodyOnHead head body = false) :
    ∃ indent, bodyIndent filename head name body lines = .ok indent := by
  cases body with
  | nil => exact ⟨_, rfl⟩
  | cons first rest => exact ⟨_, if_neg (of_decide_eq_false h)⟩

theorem ofDefinition_of_onHead (h : startsOnHead s = true) :
    ∃ line name, Declaration.ofDefinition filename (.measured lines) (s, path) =
      .error (.bodyOnHeadLine filename line name) := by
  cases s with
  | classDef span name decorators bases body =>
    refine ⟨span.line, name, ?_⟩
    rw [Declaration.ofDefinition, IndentRule.indent, bodyIndent_of_onHead filename lines name h]
    rfl
  | functionDef span isAsync name decorators params body =>
    refine ⟨span.line, name, ?_⟩
    rw [Declaration.ofDefinition, IndentRule.indent, bodyIndent_of_onHead filename lines name h]
    rfl
  | _ => exact absurd h Bool.false_ne_true

/-- Any other definition is declared if and only if its expressions can be written out. -/
theorem ofDefinition_writesOut (h : startsOnHead s = false) :
    WritesOut (Declaration.ofDefinition filename (.measured lines) (s, path)) (writtenOut s) := by
  cases s with
  | classDef span name decorators bases body =>
    obtain ⟨indent, hindent⟩ := bodyIndent_of_not_onHead filename lines name h
    rw [Declaration.ofDefinition, IndentRule.indent, hindent]
    exact (membersOf_writesOut body).bind fun _ _ => (signaturesOf_writesOut body).pass _
  | functionDef span isAsync name decorators params body =>
    obtain ⟨indent, hindent⟩ := bodyIndent_of_not_onHead filename lines name h
    rw [Declaration.ofDefinition, IndentRule.indent, hindent]
    exact .ok _
  | _ => exact .ok none

end

/-- Some expression cannot be written out, of a definition before the first one whose body starts on the
    line of its head. -/
def Unwritten (definitions : List (Stmt × String)) : Prop :=
  ∃ d ∈ definitions.takeWhile (!startsOnHead ·.1), ∃ x ∈ writtenOut d.1, ¬x.Writable

variable {lines : List String} {s : Stmt} {path : String} {definitions : List (Stmt × String)}

theorem unwritten_cons_of_onHead (h : startsOnHead s = true) :
    ¬Unwritten ((s, path) :: definitions) := by
  rintro ⟨d, hd, -⟩
  rw [List.takeWhile_cons_of_neg (by simp [h])] at hd
  exact absurd hd List.not_mem_nil

theorem unwritten_cons (h : startsOnHead s = false) :
    Unwritten ((s, path) :: definitions) ↔
      (∃ x ∈ writtenOut s, ¬x.Writable) ∨ Unwritten definitions := by
  rw [Unwritten, List.takeWhile_cons_of_pos (by simp [h])]
  exact List.exists_mem_cons_iff _ _ _

theorem mapM_ofDefinition_answersIf (definitions : List (Stmt × String)) :
    AnswersIf filename (¬Unwritten definitions)
      (definitions.mapM (Declaration.ofDefinition filename (.measured lines))) := by
  induction definitions with
  | nil =>
    refine .inl ⟨?_, answers_ok _⟩
    rintro ⟨d, hd, -⟩
    exact absurd hd List.not_mem_nil
  | cons definition definitions ih =>
    obtain ⟨s, path⟩ := definition
    rw [List.mapM_cons]
    cases hhead : startsOnHead s with
    | true =>
      -- nothing behind this definition is looked at any more
      obtain ⟨line, name, hfault⟩ := ofDefinition_of_onHead filename lines path hhead
      refine .inl ⟨unwritten_cons_of_onHead hhead, ?_⟩
      rw [hfault]
      exact answers_error_iff.2 rfl
    | false =>
      rw [unwritten_cons hhead]
      rcases ofDefinition_writesOut filename lines path hhead with
        ⟨hall, d, hd⟩ | ⟨hsome, why, hfault⟩
      · have hhere : ¬∃ x ∈ writtenOut s, ¬x.Writable := fun ⟨x, hx, hnot⟩ => hnot (hall x hx)
        rw [hd, or_iff_right hhere]
        exact ih.pass (d :: ·)
      · refine .inr ⟨not_not_intro (.inl hsome), .unwritable why, ?_, trivial⟩
        rw [hfault]
        rfl

theorem ofModule_answersIf (tree : List Stmt) : AnswersIf filename
    (¬Unwritten (markedDefinitions "" tree))
    (Declaration.ofModule filename (.measured lines) tree) :=
  (mapM_ofDefinition_answersIf _).pass _

/-! ## Texts -/

/-- Exactly the texts with a null character are refused without a line. -/
theorem parse_nullCharacter_iff (text : String) :
    Module.parse text = .error .nullCharacter ↔ '\x00' ∈ text.toList := by
  rw [Module.parse, parseWith]
  split
  next h => exact iff_of_true rfl (List.contains_iff_mem.1 h)
  next h =>
    refine iff_of_false ?_ fun hmem => h (List.contains_iff_mem.2 hmem)
    split <;> nofun

/-- A text without a null character, in which everything that is written out for declarations has a
    canonical text. -/
structure Answerable (text : String) : Prop where
  not_null : '\x00' ∉ text.toList
  written : ∀ tree, Module.parse text = .ok tree → ¬Unwritten (markedDefinitions "" tree)

/-- The declarations of these texts, and of no other ones, are read or refused with a line. -/
theorem parseAll_answersIf (filename text : String) :
    AnswersIf filename (Answerable text) (Declaration.parseAll filename text) := by
  rw [Declaration.parseAll, parseSource]
  cases hparse : Module.parse text with
  | ok tree =>
    have hnull : '\x00' ∉ text.toList := by
      rw [← parse_nullCharacter_iff, hparse]
      exact fun h => error_ne_ok h.symm
    refine (ofModule_answersIf tree).congr ⟨fun h => ⟨hnull, fun tree' htree => ?_⟩, ?_⟩
    · rw [← Except.ok.inj (hparse.symm.trans htree)]
      exact h
    · exact fun h => h.written tree hparse
  | error fault =>
    cases fault with
    | nullCharacter =>
      refine .inr ⟨fun h => ?_, .nullCharacter, rfl, trivial⟩
      exact h.not_null ((parse_nullCharacter_iff text).1 hparse)
    | malformed fault =>
      refine .inl ⟨⟨?_, fun tree htree => ?_⟩, answers_error_iff.2 rfl⟩
      · rw [← parse_nullCharacter_iff, hparse]
        simp
      · exact absurd (hparse.symm.trans htree) error_ne_ok

/-- And these texts are expanded or refused with a line if no character is cut. -/
theorem expand_answersIf (filename text : String) :
    AnswersIf filename (Answerable text ∧
      ∀ tree ds, readModule filename text = .ok (tree, ds) → Uncut tree ds text)
      (expand filename text) := by
  have hparse := parseAll_answersIf filename text
  rw [parseAll_eq_map_readModule] at hparse
  cases hread : readModule filename text with
  | error fault =>
    rw [hread] at hparse
    rw [expand, expandTo, hread]
    rcases hparse with ⟨hanswerable, hanswers⟩ | ⟨hnot, fault', hsame, hunplaced⟩
    · have hnone : ∀ tree ds, (.error fault : Except SourceError (List Stmt × List Declaration)) =
          .ok (tree, ds) → Uncut tree ds text := fun _ _ h => absurd h error_ne_ok
      exact .inl ⟨⟨hanswerable, hnone⟩, answers_error_iff.2 (answers_error_iff.1 hanswers)⟩
    · obtain rfl := Except.error.inj hsame
      exact .inr ⟨fun h => hnot h.1, fault, rfl, hunplaced⟩
  | ok module =>
    obtain ⟨tree, ds⟩ := module
    rw [hread] at hparse
    -- a text that was read holds nothing that stops it from being read
    have hanswerable : Answerable text := hparse.iff.1 (answers_ok ds)
    rcases expand_of_read hread with ⟨huncut, e, he⟩ | ⟨hcut, hfault⟩
    · rw [he]
      refine .inl ⟨⟨hanswerable, fun tree' ds' heq => ?_⟩, answers_ok e⟩
      obtain ⟨rfl, rfl⟩ := Prod.mk.inj (Except.ok.inj heq)
      exact huncut
    · exact .inr ⟨fun h => hcut (h.2 tree ds rfl), .cutCharacter, hfault, trivial⟩

/-! ## Commands -/

/-- The file that a command reads first. -/
def Command.file : Command → String
  | .expand file _ | .plan file _ | .check file _ => file

variable {look : String → Entry} {words : List String} {request : Request} {command : Command}
  {fault : SourceError}

theorem expansionTrace_of_reported (hexpand : expand filename text = .error fault)
    (hreported : fault.Reported filename) : expansionTrace filename text = [] := by
  rw [expansionTrace]
  cases hread : readModule filename text with
  | error fault' => rfl
  | ok module =>
    exfalso
    rcases expand_of_read hread with ⟨-, e, he⟩ | ⟨-, hcut⟩
    · exact error_ne_ok (hexpand.symm.trans he)
    · obtain rfl := Except.error.inj (hexpand.symm.trans hcut)
      exact hreported

theorem run_of_fault (hwords : Request.ofWords words = .ok request)
    (hcommand : request.command = some command) (hread : (look command.file).read = .ok text)
    (hexpand : expand command.file text = .error fault) :
    run look words = if request.verbose then
      (Outcome.ofSourceError ⟨request.colours⟩ fault).after (expansionTrace command.file text)
      else Outcome.ofSourceError ⟨request.colours⟩ fault := by
  rw [run, hwords]
  dsimp only
  rw [hcommand]
  cases command <;>
  · dsimp only [Command.file] at hread hexpand
    dsimp only [Command.run]
    rw [withExpansion, hread]
    dsimp only
    rw [hexpand]
    rfl

theorem Outcome.after_nil (o : Outcome) : o.after [] = o := by
  rw [after, textOfLines, List.map_nil, String.join_nil, String.empty_append]

theorem ofSourceError_of_reported (style : Style) (h : fault.Reported filename) :
    ∃ (line : Nat) (message : String), Outcome.ofSourceError style fault =
      Outcome.ofSourceError.reported style (filename ++ ":" ++ toString line ++ ": " ++ message) := by
  cases fault with
  | malformed name line =>
    obtain rfl : name = filename := h
    refine ⟨line, "<syntax error>", ?_⟩
    have hmark : ": " ++ "<syntax error>" = ": <syntax error>" := by decide
    rw [String.append_assoc, hmark]
    rfl
  | bodyOnHeadLine name line definition =>
    obtain rfl : name = filename := h
    refine ⟨line, "body of '" ++ definition ++ "' must start on its own line", ?_⟩
    have hmark : ": body of '" = ": " ++ "body of '" := by decide
    rw [Outcome.ofSourceError, SourceError.message, Option.getD_some, hmark]
    simp only [String.append_assoc]
  | _ => exact h.elim

theorem run_of_reported (hwords : Request.ofWords words = .ok request)
    (hcommand : request.command = some command) (hread : (look command.file).read = .ok text)
    (hexpand : expand command.file text = .error fault) (hreported : fault.Reported command.file) :
    run look words = Outcome.ofSourceError ⟨request.colours⟩ fault := by
  -- no declaration was read, so a trace that was asked for is empty
  rw [run_of_fault hwords hcommand hread hexpand, expansionTrace_of_reported hexpand hreported]
  split
  · exact Outcome.after_nil _
  · rfl

/-- To any other refusal a command has no answer. -/
theorem run_of_unplaced (hwords : Request.ofWords words = .ok request)
    (hcommand : request.command = some command) (hread : (look command.file).read = .ok text)
    (hexpand : expand command.file text = .error fault) (hunplaced : fault.Unplaced) :
    (run look words).ending = .crashed (.source fault) := by
  have hending : (Outcome.ofSourceError ⟨request.colours⟩ fault).ending =
      .crashed (.source fault) := by
    cases fault with
    | malformed _ _ | bodyOnHeadLine _ _ _ => exact hunplaced.elim
    | _ => rfl
  rw [run_of_fault hwords hcommand hread hexpand]
  split
  · rw [Outcome.after_ending, hending]
  · exact hending

/-- **Refusals tell the name of the file and a line.** This holds exactly of texts without a null
    character in which everything that is written out for declarations has a canonical text, and for
    expansions if no character is cut. What plans change is always there, and no character is cut where
    the displayed lines are the lines of code, or where all characters have one byte. Commands report
    such a refusal on one line, and crash otherwise. -/
theorem refusals_reported_iff (filename text : String) :
    (Answers filename (Declaration.parseAll filename text) ↔ Answerable text) ∧
    (Answers filename (expand filename text) ↔ Answerable text ∧
      ∀ tree ds, readModule filename text = .ok (tree, ds) → Uncut tree ds text) ∧
    (∀ tree ds, readModule filename text = .ok (tree, ds) →
      (∀ p ∈ (Expansion.account (Text.displayLines text) ds text).plans, p.Placed tree text) ∧
      (Text.PlainEnds text ∨ Text.IsAscii text → Uncut tree ds text)) ∧
    ∀ look words request command, Request.ofWords words = .ok request →
      request.command = some command → command.file = filename →
      (look filename).read = .ok text → ∀ fault, expand filename text = .error fault →
      (fault.Reported filename → ∃ (line : Nat) (message : String), run look words =
        { ending := .returned 1,
          errors := textOfLines [Style.failure ⟨request.colours⟩ ("Syntax error: " ++
            (filename ++ ":" ++ toString line ++ ": " ++ message))] }) ∧
      (¬fault.Reported filename → (run look words).ending = .crashed (.source fault)) := by
  refine ⟨(parseAll_answersIf filename text).iff, (expand_answersIf filename text).iff, ?_, ?_⟩
  · intro tree ds hread
    have hparse : Module.parse text = .ok tree := (parse_of_readModule hread).1
    exact ⟨placed_of_read hread, fun hplain => uncut_of_parse hparse hplain ds⟩
  · rintro look words request command hwords hcommand rfl hread fault hexpand
    constructor
    · intro hreported
      rw [run_of_reported hwords hcommand hread hexpand hreported]
      exact ofSourceError_of_reported _ hreported
    · intro hnot
      refine run_of_unplaced hwords hcommand hread hexpand ?_
      exact ((expand_answersIf _ _).fault_cases hexpand).resolve_left hnot

/-- Two records, the second one with its body on the line of its head. -/
def headLineText : String :=
  "@autolens\n@dataclass(frozen=True)\nclass A:\n    x: int\n@autolens\nclass B: y = 1\n"

theorem refusals_reported_iff_headLine :
    Declaration.parseAll "a.py" headLineText = .error (.bodyOnHeadLine "a.py" 6 "B") ∧
    Answerable headLineText ∧ Answers "a.py" (expand "a.py" headLineText) ∧
    ∃ (line : Nat) (message : String),
      run (fun _ => .file headLineText.toUTF8) ["--no-color", "expand", "a.py", "-o", "b.py"] =
        { ending := .returned 1,
          errors := textOfLines [Style.failure ⟨false⟩ ("Syntax error: " ++
            ("a.py" ++ ":" ++ toString line ++ ": " ++ message))] } := by
  obtain ⟨hparsed, hexpanded, hplans, hrun⟩ := refusals_reported_iff "a.py" headLineText
  have hparse : Declaration.parseAll "a.py" headLineText =
      .error (.bodyOnHeadLine "a.py" 6 "B") := by decide +kernel
  have hanswerable : Answerable headLineText := by
    rw [← hparsed, hparse]
    exact answers_error_iff.2 rfl
  have hanswers : Answers "a.py" (expand "a.py" headLineText) :=
    hexpanded.2 ⟨hanswerable, fun tree ds hread => (hplans tree ds hread).2 (.inl (by decide +kernel))⟩
  refine ⟨hparse, hanswerable, hanswers, ?_⟩
  have hread : (Entry.file headLineText.toUTF8).read = .ok headLineText := by
    rw [Entry.read_toUTF8]
    decide +kernel
  cases hexpand : expand "a.py" headLineText with
  | ok e =>
    obtain ⟨ds, hds⟩ := parseAll_of_expand hexpand
    exact absurd (hparse.symm.trans hds) error_ne_ok
  | error fault =>
    have hwords : Request.ofWords ["--no-color", "expand", "a.py", "-o", "b.py"] =
      .ok ⟨false, false, some (.expand "a.py" (some "b.py"))⟩ := by decide +kernel
    exact (hrun _ _ _ _ hwords rfl rfl hread fault hexpand).1 (hanswers fault hexpand)

/-- A null character is refused without a line. -/
example : Declaration.parseAll sourceName "x = 1\x00\n" = .error .nullCharacter := by decide +kernel

end RecordLens
