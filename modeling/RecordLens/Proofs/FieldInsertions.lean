import RecordLens.Proofs.AssignmentPlaces
import RecordLens.Proofs.ClassPlaces
import RecordLens.Proofs.DeclaredDefinitions
import RecordLens.Proofs.InsertionPlaces
/-!
Where the fields of a plan are changed. A plan changes assignments in a class body, at the ends of their
targets and at both ends of their values. Those are ends of tokens, so they lie on lines of the text and
between two characters of a line of code; where lines of code are displayed lines, no character is cut.

* `Insertion.StandsIn`: an insertion between two characters of a line of code.
* `standsIn_of_mem_insertions`: the insertions of a plan.
* `placed_of_read`: their lines are displayed ones, and the classes of their plans are there.
* `uncut_of_parse`: none of them cuts a character where lines of code are displayed lines, or where no
  character has more than one byte.
* `expand_of_read`: that decides whether a text that was read is expanded.
-/
namespace RecordLens

open Code

/-! ## Statements in class bodies -/

mutual

theorem simples_of_classBodiesIn {x : Stmt} {line : Nat} {body : List Stmt} (hx : x ∈ simples body) :
    ∀ s : Stmt, (line, body) ∈ classBodiesIn s → x ∈ simplesIn s
  | .classDef span name decorators bases inner, h => by
    rcases List.mem_cons.1 h with heq | h
    · obtain ⟨-, rfl⟩ := Prod.mk.inj heq
      exact hx
    · exact simples_of_classBodies hx inner h
  | .functionDef _ _ _ _ _ inner, h => simples_of_classBodies hx inner h
  | .compound _ inner, h => simples_of_classBodies hx inner h
  | .assign _ _ _, h | .annotate _ _ _ _, h | .importModules _ _, h | .importFrom _ _ _ _, h
  | .evaluate _ _, h | .simple _, h => absurd h List.not_mem_nil

theorem simples_of_classBodies {x : Stmt} {line : Nat} {body : List Stmt} (hx : x ∈ simples body) :
    ∀ ss : List Stmt, (line, body) ∈ classBodies ss → x ∈ simples ss
  | [], h => absurd h List.not_mem_nil
  | s :: ss, h => by
    rw [simples, List.mem_append]
    exact (List.mem_append.1 h).imp (simples_of_classBodiesIn hx s) (simples_of_classBodies hx ss)

end

/-- What holds of all simple statements of a text holds of those in the bodies of classes. -/
theorem Code.Throughout.of_classBodies {Q : Stmt → Prop} {tree body : List Stmt} {line : Nat}
    (h : Throughout Q tree) (hbody : (line, body) ∈ classBodies tree) : Throughout Q body :=
  fun x hx => h x (simples_of_classBodies hx tree hbody)

theorem mem_classBodies {x : Nat × List Stmt} {ss : List Stmt} :
    x ∈ classBodies ss ↔ ∃ s ∈ ss, x ∈ classBodiesIn s := by
  induction ss with
  | nil => simp [classBodies]
  | cons s ss ih => rw [classBodies, List.mem_append, ih, List.exists_mem_cons_iff]

theorem class_of_marked {span : Span} {name path : String} {decorators bases : List Expr}
    {body ss : List Stmt} (outer : String)
    (h : (.classDef span name decorators bases body, path) ∈ markedDefinitions outer ss) :
    (span.line, body) ∈ classBodies ss := by
  have hall := forall_marked (P := fun s => ∀ x ∈ classBodiesIn s, x ∈ classBodies ss)
    (R := fun _ => True) (fun s hs x hx => mem_classBodies.2 ⟨s, hs, hx⟩) ?_ trivial
    (fun _ _ _ _ => trivial) _ h
  · exact hall.2.1 _ List.mem_cons_self
  · rintro (_ | _) hclass hbodies t ht x hx
    · exact hbodies x (List.mem_cons_of_mem _ (mem_classBodies.2 ⟨t, ht, hx⟩))
    all_goals exact absurd hclass Bool.false_ne_true

theorem class_of_record {filename : String} {rule : IndentRule} {definition : Stmt × String}
    {d : Declaration} (h : Declaration.ofDefinition filename rule definition = .ok (some d))
    (hrecord : d.kind = .record) : ∃ span name decorators bases body,
      definition.1 = .classDef span name decorators bases body ∧ d.location.line = span.line := by
  rcases ofDefinition_cases h with ⟨span, name, decorators, bases, body, _, _, _, hclass, -, -, -, rfl⟩ |
    ⟨_, _, _, _, _, _, _, -, -, rfl⟩
  · exact ⟨span, name, decorators, bases, body, hclass, rfl⟩
  · exact DeclKind.noConfusion hrecord

/-! ## Insertions between characters -/

/-- A place between two characters of a line of code. -/
def BetweenChars (text : String) (line column : Nat) : Prop :=
  ∃ front back, Text.byteLength front = column ∧
    (Text.codeLine text line).toList = front ++ back

/-- An insertion on one of the lines of a text, between two characters of the line of code. -/
structure Insertion.StandsIn (i : Insertion) (text : String) : Prop where
  line_pos : 1 ≤ i.line
  line_le : i.line ≤ (Text.codeLines text).length
  between : BetweenChars text i.line i.column

variable {text : String}

theorem ends_of_anchored {span : Span}
    (h : Anchored (tokenize 1 (closeLastLine text.toList)).tokens span) :
    1 ≤ span.line ∧ span.line ≤ span.endLine ∧ span.endLine ≤ (Text.codeLines text).length ∧
      BetweenChars text span.line span.column ∧ BetweenChars text span.endLine span.endColumn := by
  obtain ⟨a, l, first, last, hfirst, hlast, hal, hedge, hlastEdge, rfl⟩ := h
  -- tokens that begin and end stretches of code have text, so they stand on a line of the text
  have hcut := tokenize_cut 1 (closeLastLine text.toList)
  have htext := (hcut.text_ne_iff (mem_of_getElem? hfirst)).2 hedge
  have hlastText := (hcut.text_ne_iff (mem_of_getElem? hlast)).2 hlastEdge
  have hbegins := token_standsIn text (Array.mem_of_getElem? hfirst) htext
  have hends := token_standsIn text (Array.mem_of_getElem? hlast) hlastText
  refine ⟨(hcut.line_le (mem_of_getElem? hfirst) htext).1,
    hcut.line_le_endLine hfirst htext hal hlast hlastText, endLine_le_of_standsIn hends, ?_, ?_⟩
  · obtain ⟨front, back, hcolumn, hline⟩ := hbegins.begins
    exact ⟨front, _, hcolumn, hline.trans (List.append_assoc _ _ _)⟩
  · obtain ⟨front, back, -, hcolumn, hline, -⟩ := hends.ends
    exact ⟨front, back, hcolumn, hline⟩

/-- **The insertions of a plan stand between the characters of lines of code.** -/
theorem standsIn_of_mem_insertions {tree : List Stmt} (h : Module.parse text = .ok tree) {p : Plan}
    {i : Insertion} (hi : i ∈ p.insertions tree) : i.StandsIn text := by
  obtain ⟨line, body, span, target, id, value, f, hbody, hs, -, -, hi⟩ := exists_of_mem_insertions hi
  have hsettled := settled_iff.2 ((settled_iff.1 (settled_of_parse h)).of_classBodies hbody)
  have hends {x : Expr} (hx : x ∈ assignedIn (.assign span [.name target id] value)) :=
    ends_of_anchored (hsettled x (mem_assigned.2 ⟨_, hs, hx⟩))
  obtain ⟨htarget, htargetLe, htargetEnd, -, hbehind⟩ :=
    hends (x := .name target id) (by simp [assignedIn])
  obtain ⟨hvalue, hvalueLe, hvalueEnd, hfront, hback⟩ := hends (x := value) (by simp [assignedIn])
  rcases hi with rfl | rfl | rfl
  · exact ⟨Nat.le_trans htarget htargetLe, htargetEnd, hbehind⟩
  · exact ⟨hvalue, Nat.le_trans hvalueLe hvalueEnd, hfront⟩
  · exact ⟨Nat.le_trans hvalue hvalueLe, hvalueEnd, hback⟩

/-! ## Insertions that go in -/

theorem Insertion.StandsIn.fits {i : Insertion} (h : i.StandsIn text)
    (hlines : Text.displayLines text = Text.codeLines text) : i.Fits (Text.displayLines text) := by
  intro line hline
  obtain ⟨front, back, hcolumn, hchars⟩ := h.between
  rw [hlines] at hline
  rw [Text.codeLine, List.getD_eq_getElem?_getD, hline] at hchars
  rw [← hcolumn, show line.toList = front ++ back from hchars, Text.cutAtByte_byteLength]
  rfl

/-- Every character of the text has one byte. -/
def Text.IsAscii (text : String) : Prop := ∀ c ∈ text.toList, c.toNat < 128

theorem utf8Size_of_lt {c : Char} (h : c.toNat < 128) : c.utf8Size = 1 :=
  Char.utf8Size_eq_one_iff.2 (UInt32.le_iff_toNat_le.2 (Nat.le_of_lt_succ h))

theorem utf8Size_of_all {s : String} (h : s.toList.all (·.toNat < 128) = true) :
    ∀ c ∈ s.toList, c.utf8Size = 1 :=
  fun c hc => utf8Size_of_lt (of_decide_eq_true (List.all_eq_true.1 h c hc))

theorem fits_of_isAscii (h : Text.IsAscii text) (i : Insertion) :
    i.Fits (Text.displayLines text) := by
  intro line hline
  refine Text.isSome_cutAtByte_of_size (fun c hc => utf8Size_of_lt (h c ?_)) i.column
  obtain ⟨cs, hcs, rfl⟩ := List.mem_map.1 (List.mem_of_getElem? hline)
  rw [String.toList_ofList] at hc
  exact Text.mem_of_mem_cutLines hcs hc

theorem Member.typeName_of_inferred {m : Member} {f : Field} (h : m.outcome.field? = some f)
    (hinferred : f.inferred = true) : ∃ kind : ValueKind, kind.typeName? = some f.type := by
  unfold outcome at h
  split at h
  · exact absurd h nofun
  split at h
  · exact absurd h nofun
  split at h
  · exact absurd h nofun
  next type inferred hresolved =>
    obtain rfl := Option.some.inj h
    obtain rfl : inferred = true := hinferred
    unfold resolvedType? at hresolved
    split at hresolved
    · split at hresolved
      · exact typeName_of_fromValue hresolved
      · exact absurd (congrArg Prod.snd (Option.some.inj hresolved)) Bool.false_ne_true
    · exact typeName_of_fromValue hresolved

theorem plain_of_mem_insertions {tree : List Stmt} {d : Declaration} {p : Plan} {i : Insertion}
    (hp : d.plan? = some p) (hi : i ∈ p.insertions tree) (hstands : i.StandsIn text) : i.Plain := by
  refine ⟨hstands.line_pos, ?_⟩
  obtain ⟨_, _, _, _, _, _, f, _, _, hf, hinferred, hplaces⟩ := exists_of_mem_insertions hi
  obtain rfl := plan?_eq_some hp
  obtain ⟨m, -, hfield⟩ := List.mem_filterMap.1 hf
  have htype : ∀ c ∈ f.type.toList, c.utf8Size = 1 := by
    obtain ⟨kind, hkind⟩ := Member.typeName_of_inferred hfield hinferred
    cases kind with
    | other => exact absurd hkind nofun
    | _ =>
      rw [← Option.some.inj hkind]
      exact utf8Size_of_all (by decide +kernel)
  rcases hplaces with rfl | rfl | rfl
  · rw [String.toList_append, List.forall_mem_append]
    exact ⟨utf8Size_of_all (by decide +kernel), htype⟩
  · dsimp only
    exact utf8Size_of_all (by decide +kernel)
  · dsimp only
    exact utf8Size_of_all (by decide +kernel)

/-! ## Expansions -/

theorem fault_of_foldlM {is : List Insertion} {fault : SourceError} : ∀ {lines : List String},
    is.foldlM insertInto lines = .error fault → fault = .cutCharacter := by
  induction is with
  | nil => exact fun h => absurd h.symm error_ne_ok
  | cons i is ih =>
    intro lines h
    rw [List.foldlM_cons] at h
    rcases bind_eq_error.1 h with h | ⟨mid, -, h⟩
    · unfold insertInto at h
      split at h
      · exact absurd h.symm error_ne_ok
      · split at h
        · exact absurd h.symm error_ne_ok
        · exact (Except.error.inj h).symm
    · exact ih h

/-- What a plan changes is there: its class is one of the module, and its insertions are on displayed
    lines. -/
structure Plan.Placed (p : Plan) (tree : List Stmt) (text : String) : Prop where
  class_mem : ∃ body, (p.declaration.location.line, body) ∈ classBodies tree
  line_mem : ∀ i ∈ p.insertions tree, 1 ≤ i.line ∧ i.line ≤ (Text.displayLines text).length

/-- **The plans of a text that is read change what is there.** -/
theorem placed_of_read {filename : String} {tree : List Stmt} {ds : List Declaration}
    (hread : readModule filename text = .ok (tree, ds)) :
    ∀ p ∈ (Expansion.account (Text.displayLines text) ds text).plans, p.Placed tree text := by
  intro p hp
  obtain ⟨hparse, hmodule⟩ := parse_of_readModule hread
  obtain ⟨d, hd, haccepted⟩ := List.mem_filterMap.1 hp
  refine ⟨?_, fun i hi => ?_⟩
  · have hrecord := Declaration.record_of_plan? (Declaration.plan?_of_accepted? haccepted)
    obtain ⟨⟨definition, path⟩, hmarked, hof⟩ := Declaration.exists_ofDefinition hmodule hd
    obtain ⟨span, name, decorators, bases, body, rfl, hline⟩ := class_of_record hof hrecord
    rw [Declaration.declaration_of_accepted? haccepted, hline]
    exact ⟨body, class_of_marked "" hmarked⟩
  · have hstands := standsIn_of_mem_insertions hparse hi
    exact ⟨hstands.line_pos, Nat.le_trans hstands.line_le (Text.length_codeLines_le text)⟩

/-- No character is cut where the plans of a module change its lines. -/
def Uncut (tree : List Stmt) (ds : List Declaration) (text : String) : Prop :=
  let account := Expansion.account (Text.displayLines text) ds text
  account.success = true → ∀ p ∈ account.plans, ∀ i ∈ p.insertions tree,
    i.Fits (Text.displayLines text)

/-- Where the displayed lines are the lines of code no character is cut, and none can be where each of
    them has one byte. -/
theorem uncut_of_parse {tree : List Stmt} (h : Module.parse text = .ok tree)
    (hplain : Text.PlainEnds text ∨ Text.IsAscii text) (ds : List Declaration) :
    Uncut tree ds text := by
  intro _ p _ i hi
  rcases hplain with hends | hascii
  · exact (standsIn_of_mem_insertions h hi).fits ((Text.displayLines_eq_codeLines_iff text).2 hends)
  · exact fits_of_isAscii hascii i

/-- All that is put into the lines of a text goes in if and only if nothing of it cuts a character. -/
theorem exists_insertAll_of_parse {tree : List Stmt} (h : Module.parse text = .ok tree)
    (ds : List Declaration) :
    let plans := (Expansion.account (Text.displayLines text) ds text).plans
    (∃ changed, insertAll (Text.displayLines text) (plans.flatMap (·.insertions tree)) = .ok changed) ↔
      ∀ p ∈ plans, ∀ i ∈ p.insertions tree, i.Fits (Text.displayLines text) := by
  intro plans
  have hplain : ∀ i ∈ plans.flatMap (·.insertions tree), i.Plain := by
    intro i hi
    obtain ⟨p, hp, hip⟩ := List.mem_flatMap.1 hi
    obtain ⟨d, -, haccepted⟩ := List.mem_filterMap.1 hp
    exact plain_of_mem_insertions (Declaration.plan?_of_accepted? haccepted) hip
      (standsIn_of_mem_insertions h hip)
  rw [exists_insertAll_iff hplain, List.forall_mem_flatMap]

/-- **A text that is read is expanded, or a character is cut.** -/
theorem expand_of_read {filename : String} {tree : List Stmt} {ds : List Declaration}
    (hread : readModule filename text = .ok (tree, ds)) :
    (Uncut tree ds text ∧ ∃ e, expand filename text = .ok e) ∨
      ¬Uncut tree ds text ∧ expand filename text = .error .cutCharacter := by
  obtain ⟨hparse, -⟩ := parse_of_readModule hread
  have hfits := exists_insertAll_of_parse hparse ds
  let account := Expansion.account (Text.displayLines text) ds text
  rw [expand, expandTo_eq hread, expandModuleTo_eq]
  dsimp only at hfits ⊢
  split
  next hstays =>
    -- with an error nothing is changed, and without a plan there is nothing to change
    refine .inl ⟨fun hsuccess p hp => ?_, _, rfl⟩
    have hempty : account.plans = [] := by
      rcases Bool.or_eq_true_iff.1 hstays with hfail | hempty
      · rw [hsuccess] at hfail
        exact absurd hfail (by decide)
      · exact List.isEmpty_iff.1 hempty
    rw [hempty] at hp
    exact absurd hp List.not_mem_nil
  next hchanges =>
    have hsuccess : account.success = true := by
      rw [Bool.or_eq_true, not_or, Bool.not_eq_true, Bool.not_eq_false'] at hchanges
      exact hchanges.1
    rw [expandLines]
    cases hall : insertAll (Text.displayLines text) (account.plans.flatMap (·.insertions tree)) with
    | ok changed => exact .inl ⟨fun _ => hfits.1 ⟨changed, hall⟩, _, rfl⟩
    | error fault =>
      obtain rfl := fault_of_foldlM hall
      refine .inr ⟨fun huncut => ?_, rfl⟩
      obtain ⟨changed, hchanged⟩ := hfits.2 (huncut hsuccess)
      exact error_ne_ok (hall.symm.trans hchanged)

end RecordLens
