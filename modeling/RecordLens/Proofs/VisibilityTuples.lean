import RecordLens.Proofs.InferredInsertions
/-!
Who may see a field. A class body assigns names to three reserved tuples. Of the assignments that list the
name of a field the first one decides, and nothing else in the body does.

* `Lists`: a value that lists a name; `Stmt.assignments`: what a statement assigns, from left to right.
* `Grants`: an assignment that gives a name a visibility; `SeenAs`: the first one of a body decides.
* `seenAs_iff`: the visibility that is found among the modifiers of a name.
* `SameTuples`: bodies with the same tuples in the same order; `modifiersOf_congr`: their modifiers.
* `visibility_of_first_tuple`: the fields of a body, and those of two bodies with the same tuples.
-/
namespace RecordLens

open Code

/-! ## Strings in code -/

namespace Text

theorem ofPoints_points (s : String) : ofPoints (points s) = s := by
  have hchar (c : Char) :
      (if c.toNat.isValidChar then Char.ofNat c.toNat else Char.ofNat 0xFFFD) = c := by
    have hvalid : c.toNat.isValidChar := c.valid
    rw [if_pos hvalid, Char.ofNat_toNat]
  simp only [ofPoints, points, List.map_map, Function.comp_def, hchar, List.map_id_fun', id_eq,
    String.ofList_toList]

theorem points_ofPoints {ps : List Nat} (h : ∀ p ∈ ps, p.isValidChar) :
    points (ofPoints ps) = ps := by
  have hpoint : ∀ p ∈ ps, Char.toNat (if p.isValidChar then Char.ofNat p else Char.ofNat 0xFFFD) = p := by
    intro p hp
    rw [if_pos (h p hp), toNat_ofNat (h p hp)]
  rw [points, ofPoints, String.toList_ofList, List.map_map]
  exact (List.map_congr_left hpoint).trans (List.map_id' ps)

theorem isValidChar_of_mem_points {s : String} {p : Nat} (h : p ∈ points s) : p.isValidChar := by
  obtain ⟨c, -, rfl⟩ := List.mem_map.1 h
  exact c.valid

end Text

/-- An expression is the string `name`, however it is quoted. -/
def IsString (name : String) (e : Expr) : Prop :=
  ∃ span marked, e = .literal span (.text (Text.points name) marked)

/-- A value lists a name: it is that string, or a tuple, a list or a set with that string among its
    items. -/
inductive Lists (name : String) : Expr → Prop
  | single {e : Expr} (h : IsString name e) : Lists name e
  | tuple {span : Span} {items : List Expr} {e : Expr} (he : e ∈ items) (h : IsString name e) :
      Lists name (.tuple span items)
  | list {span : Span} {items : List Expr} {e : Expr} (he : e ∈ items) (h : IsString name e) :
      Lists name (.list span items)
  | set {span : Span} {items : List Expr} {e : Expr} (he : e ∈ items) (h : IsString name e) :
      Lists name (.set span items)

theorem string?_eq_some_iff {e : Expr} {name : String} : e.string? = some name ↔ IsString name e := by
  constructor
  · intro h
    unfold Expr.string? at h
    split at h
    next span ps marked =>
      split at h
      next hvalid =>
        have hpoints : ∀ p ∈ ps, p.isValidChar := fun p hp =>
          of_decide_eq_true (List.all_eq_true.1 hvalid p hp)
        rw [← Option.some.inj h]
        exact ⟨span, marked, by rw [Text.points_ofPoints hpoints]⟩
      · exact absurd h nofun
    · exact absurd h nofun
  · rintro ⟨span, marked, rfl⟩
    have hvalid : (Text.points name).all (·.isValidChar) = true :=
      List.all_eq_true.2 fun p hp => decide_eq_true (Text.isValidChar_of_mem_points hp)
    rw [Expr.string?, if_pos hvalid, Text.ofPoints_points]

theorem mem_listedNames {value : Expr} {name : String} :
    name ∈ listedNames value ↔ Lists name value := by
  have hitems (items : List Expr) :
      name ∈ items.filterMap (·.string?) ↔ ∃ e ∈ items, IsString name e := by
    simp only [List.mem_filterMap, string?_eq_some_iff]
  constructor
  · intro h
    unfold listedNames at h
    split at h
    · obtain ⟨e, he, hname⟩ := (hitems _).1 h
      exact .tuple he hname
    · obtain ⟨e, he, hname⟩ := (hitems _).1 h
      exact .list he hname
    · obtain ⟨e, he, hname⟩ := (hitems _).1 h
      exact .set he hname
    · exact .single (string?_eq_some_iff.1 (Option.mem_toList.1 h))
  · intro h
    cases h with
    | single h =>
      obtain ⟨span, marked, rfl⟩ := id h
      exact Option.mem_toList.2 (string?_eq_some_iff.2 h)
    | tuple he h => exact (hitems _).2 ⟨_, he, h⟩
    | list he h => exact (hitems _).2 ⟨_, he, h⟩
    | set he h => exact (hitems _).2 ⟨_, he, h⟩

/-! ## Assignments to tuples -/

/-- What a statement assigns, from left to right: each target with the value. -/
def Code.Stmt.assignments : Stmt → List (Expr × Expr)
  | .assign _ targets value => targets.map (·, value)
  | .annotate _ target _ (some value) => [(target, value)]
  | _ => []

/-- The reserved names, each with the visibility of the names that are assigned to it. -/
inductive IsTuple : String → Visibility → Prop
  | exposed : IsTuple "__public__" .exposed
  | internal : IsTuple "__internal__" .internal
  | hidden : IsTuple "__private__" .hidden

/-- An assignment to the tuple of a visibility lists a name. -/
def Grants (name : String) (v : Visibility) (a : Expr × Expr) : Prop :=
  ∃ span tuple, a.1 = .name span tuple ∧ IsTuple tuple v ∧ Lists name a.2

/-- The visibility of a name in a class body: that of the first assignment that grants it one, from top to
    bottom and from left to right. A name without one is hidden. -/
def SeenAs (body : List Stmt) (name : String) (v : Visibility) : Prop :=
  (∃ front a back, body.flatMap Stmt.assignments = front ++ a :: back ∧
    (∀ b ∈ front, ∀ w, ¬Grants name w b) ∧ Grants name v a) ∨
  ((∀ a ∈ body.flatMap Stmt.assignments, ∀ w, ¬Grants name w a) ∧ v = .hidden)

/-- The modifiers that one assignment gives a name. -/
def modifiersGiven (name : String) (a : Expr × Expr) : List String :=
  ((namesGiven a.2 a.1).filter (·.1 = name)).map (·.2)

theorem modifiersIn_eq (s : Stmt) :
    modifiersIn s = s.assignments.flatMap fun a => namesGiven a.2 a.1 := by
  cases s with
  | assign span targets value => rw [modifiersIn, Stmt.assignments, List.flatMap_map]
  | annotate span target type value => cases value <;> simp [modifiersIn, Stmt.assignments]
  | _ => rfl

theorem modifiersOf_eq (body : List Stmt) (name : String) :
    modifiersOf body name = (body.flatMap Stmt.assignments).flatMap (modifiersGiven name) := by
  rw [modifiersOf, funext modifiersIn_eq, ← List.flatMap_assoc, List.filter_flatMap, List.map_flatMap]
  rfl

theorem isTuple_iff {tuple : String} {v : Visibility} :
    IsTuple tuple v ↔ (visibilityTuples.lookup tuple).bind Visibility.ofModifier? = some v := by
  constructor
  · intro h
    cases h <;> decide
  · intro h
    obtain ⟨modifier, hlookup, hmodifier⟩ := Option.bind_eq_some_iff.1 h
    obtain ⟨front, back, hsplit, -⟩ := List.lookup_eq_some_iff.1 hlookup
    have hmem : (tuple, modifier) ∈ visibilityTuples := by
      rw [hsplit]
      exact List.mem_append_right front List.mem_cons_self
    simp only [visibilityTuples, List.mem_cons, Prod.mk.injEq, List.not_mem_nil, or_false] at hmem
    rcases hmem with ⟨rfl, rfl⟩ | ⟨rfl, rfl⟩ | ⟨rfl, rfl⟩
    · obtain rfl : Visibility.exposed = v := Option.some.inj hmodifier
      exact .exposed
    · obtain rfl : Visibility.internal = v := Option.some.inj hmodifier
      exact .internal
    · obtain rfl : Visibility.hidden = v := Option.some.inj hmodifier
      exact .hidden

/-- An assignment to a reserved name gives each name the same modifier as often as it lists it. -/
theorem modifiersGiven_eq_replicate {tuple modifier : String}
    (h : visibilityTuples.lookup tuple = some modifier) (name : String) (span : Span) (value : Expr) :
    modifiersGiven name (.name span tuple, value) =
      List.replicate ((listedNames value).count name) modifier := by
  have hnames : (listedNames value).filter (fun listed => decide (listed = name)) =
      List.replicate ((listedNames value).count name) name := List.filter_eq name
  simp only [modifiersGiven, namesGiven, h, List.filter_map, Function.comp_def, hnames,
    List.map_replicate]

/-- An assignment gives a name modifiers of a visibility if and only if it grants that visibility. -/
theorem ofModifiers?_modifiersGiven {name : String} {a : Expr × Expr} {v : Visibility} :
    Visibility.ofModifiers? (modifiersGiven name a) = some v ↔ Grants name v a := by
  obtain ⟨target, value⟩ := a
  constructor
  · intro h
    cases target with
    | name span tuple =>
      cases hlookup : visibilityTuples.lookup tuple with
      | none => simp [modifiersGiven, namesGiven, hlookup, Visibility.ofModifiers?] at h
      | some modifier =>
        rw [modifiersGiven_eq_replicate hlookup, Visibility.ofModifiers?, List.findSome?_replicate] at h
        split at h
        · exact absurd h (Option.some_ne_none v).symm
        next hcount =>
          have hlisted : name ∈ listedNames value := List.count_pos_iff.1 (Nat.pos_of_ne_zero hcount)
          have htuple : IsTuple tuple v := isTuple_iff.2 (by rw [hlookup]; exact h)
          exact ⟨span, tuple, rfl, htuple, mem_listedNames.1 hlisted⟩
    | _ => exact absurd h (Option.some_ne_none v).symm
  · rintro ⟨span, tuple, rfl, htuple, hlists⟩
    obtain ⟨modifier, hlookup, hmodifier⟩ := Option.bind_eq_some_iff.1 (isTuple_iff.1 htuple)
    have hcount : (listedNames value).count name ≠ 0 :=
      Nat.pos_iff_ne_zero.1 (List.count_pos_iff.2 (mem_listedNames.2 hlists))
    rw [modifiersGiven_eq_replicate hlookup, Visibility.ofModifiers?, List.findSome?_replicate,
      if_neg hcount]
    exact hmodifier

theorem ofModifiers?_flatMap {α : Type} (l : List α) (f : α → List String) :
    Visibility.ofModifiers? (l.flatMap f) = l.findSome? fun a => Visibility.ofModifiers? (f a) := by
  induction l with
  | nil => rfl
  | cons a l ih =>
    rw [List.flatMap_cons, List.findSome?_cons, ← ih, Visibility.ofModifiers?, List.findSome?_append]
    cases h : List.findSome? Visibility.ofModifier? (f a) <;> simp [Visibility.ofModifiers?, h]

/-- **The first visibility among the modifiers of a name is that of the first tuple that lists it.** -/
theorem seenAs_iff {body : List Stmt} {name : String} {v : Visibility} :
    SeenAs body name v ↔ (Visibility.ofModifiers? (modifiersOf body name)).getD .hidden = v := by
  have hnone (a : Expr × Expr) : Visibility.ofModifiers? (modifiersGiven name a) = none ↔
      ∀ w, ¬Grants name w a := by
    rw [Option.eq_none_iff_forall_ne_some]
    exact forall_congr' fun w => not_congr ofModifiers?_modifiersGiven
  rw [modifiersOf_eq, ofModifiers?_flatMap]
  constructor
  · rintro (⟨front, a, back, hsplit, hfront, ha⟩ | ⟨hall, rfl⟩)
    · have hfirst := List.findSome?_eq_some_iff.2 ⟨front, a, back, hsplit,
        ofModifiers?_modifiersGiven.2 ha, fun b hb => (hnone b).2 (hfront b hb)⟩
      rw [hfirst, Option.getD_some]
    · have hfirst := List.findSome?_eq_none_iff.2 fun a ha => (hnone a).2 (hall a ha)
      rw [hfirst, Option.getD_none]
  · intro hv
    cases hfirst : List.findSome? _ _ with
    | some w =>
      rw [hfirst, Option.getD_some] at hv
      obtain ⟨front, a, back, hsplit, ha, hfront⟩ := List.findSome?_eq_some_iff.1 hfirst
      exact .inl ⟨front, a, back, hsplit, fun b hb => (hnone b).1 (hfront b hb),
        hv ▸ ofModifiers?_modifiersGiven.1 ha⟩
    | none =>
      rw [hfirst, Option.getD_none] at hv
      exact .inr ⟨fun a ha => (hnone a).1 (List.findSome?_eq_none_iff.1 hfirst a ha), hv.symm⟩

/-! ## Bodies with the same tuples -/

/-- Whether a statement assigns to one of the reserved names. -/
def Code.Stmt.setsTuple (s : Stmt) : Bool :=
  s.assignments.any fun a =>
    match a.1 with
    | .name _ id => (visibilityTuples.lookup id).isSome
    | _ => false

/-- Two bodies assign to the reserved names in the same statements, in the same order. Nothing is said of
    where these stand, nor of any other statement. -/
def SameTuples (body body' : List Stmt) : Prop :=
  (body'.filter (·.setsTuple)).map (·.unplaced) = (body.filter (·.setsTuple)).map (·.unplaced)

theorem modifiersIn_of_not_setsTuple {s : Stmt} (h : s.setsTuple = false) : modifiersIn s = [] := by
  rw [modifiersIn_eq, List.flatMap_eq_nil_iff]
  rintro ⟨target, value⟩ ha
  have hnot := List.any_eq_false.1 h (target, value) ha
  cases target with
  | name span id =>
    have hnone : visibilityTuples.lookup id = none := Option.not_isSome_iff_eq_none.1 hnot
    simp only [namesGiven, hnone]
  | _ => rfl

/-- **Bodies with the same tuples give all names the same modifiers.** -/
theorem modifiersOf_congr {body body' : List Stmt} (h : SameTuples body body') :
    modifiersOf body' = modifiersOf body := by
  have htuples (ss : List Stmt) :
      ss.flatMap modifiersIn = ((ss.filter (·.setsTuple)).map (·.unplaced)).flatMap modifiersIn := by
    rw [List.flatMap_map, funext modifiersIn_unplaced]
    induction ss with
    | nil => rfl
    | cons s ss ih =>
      rw [List.flatMap_cons, List.filter_cons, ih]
      cases hsets : s.setsTuple with
      | true => rfl
      | false => rw [modifiersIn_of_not_setsTuple hsets]; rfl
  funext name
  rw [modifiersOf, modifiersOf, htuples body', htuples body, h]

/-! ## Fields -/

theorem Member.visibility_of_field {m : Member} {f : Field} (h : m.outcome.field? = some f) :
    f.visibility = (Visibility.ofModifiers? m.modifiers).getD .hidden := by
  unfold outcome at h
  split at h
  · exact absurd h nofun
  split at h
  · exact absurd h nofun
  split at h
  · exact absurd h nofun
  · obtain rfl := Option.some.inj h
    rfl

theorem modifiers_of_name {modifiers : String → List String} {s : Stmt} {m : Member} {name : String}
    (h : memberOf modifiers s = .ok (some m)) (hname : m.name? = some name) :
    m.modifiers = modifiers name := by
  have hbinds := Member.name?_eq_some_iff.1 hname
  rcases memberOf_cases h with ⟨_, _, id, _, _, _, _, -, -, -, -, rfl⟩ |
    ⟨_, _, _, bindings, _, first, -, -, -, -, hfirst, rfl⟩
  · obtain rfl : id = name := Option.some.inj hname
    rfl
  · obtain rfl : bindings = [⟨name, true⟩] := hbinds
    obtain rfl := hfirst name [] rfl
    rfl

/-- A field of a class has the visibility of its name in the body. -/
theorem visibility_eq {body : List Stmt} {members : List Member} (h : membersOf body = .ok members)
    {f : Field} (hf : f ∈ members.filterMap (·.outcome.field?)) :
    f.visibility = (Visibility.ofModifiers? (modifiersOf body f.name)).getD .hidden := by
  obtain ⟨m, hm, hfield⟩ := List.mem_filterMap.1 hf
  obtain ⟨s, -, hs⟩ := exists_of_mem_members h hm
  rw [Member.visibility_of_field hfield, modifiers_of_name hs (Member.name?_of_field hfield).1]

/-- **The first tuple that lists a field decides who may see it, and nothing else does.** For any other body
    with the same tuples in the same order, wherever its statements stand and whatever else it holds, the
    fields of the same name have the same visibility. -/
theorem visibility_of_first_tuple {d : Declaration} {body : List Stmt}
    (hmembers : membersOf body = .ok d.members) {f : Field} (hf : f ∈ d.fields) :
    (∀ v, f.visibility = v ↔ SeenAs body f.name v) ∧
    ∀ (d' : Declaration) (body' : List Stmt), membersOf body' = .ok d'.members →
      SameTuples body body' → ∀ f' ∈ d'.fields, f'.name = f.name → f'.visibility = f.visibility := by
  have hvisibility := visibility_eq hmembers hf
  constructor
  · intro v
    rw [seenAs_iff, ← hvisibility]
  · intro d' body' hmembers' hsame f' hf' hname
    rw [visibility_eq hmembers' hf', hname, modifiersOf_congr hsame, hvisibility]

/-- A string in code. -/
def stringLiteral (name : String) : Expr := .literal default (.text (Text.points name) false)

/-- A body with a chain of two tuples, one in brackets and with a type, and one in braces, between the
    fields. -/
def ledgerBody : List Stmt :=
  [.annotate (lineSpan 4 8) (.name default "owner") (.name default "str") none,
   .assign (lineSpan 5 40) [.name default "__private__", .name default "__public__"]
     (.tuple default [stringLiteral "owner"]),
   .annotate (lineSpan 6 40) (.name default "__internal__") (.name default "list")
     (some (.list default [stringLiteral "pages", stringLiteral "owner"])),
   .assign (lineSpan 7 40) [.name default "__public__"]
     (.set default [stringLiteral "title", stringLiteral "pages"]),
   .assign (lineSpan 8 10) [.name default "pages"] (.literal default (.int 10)),
   .annotate (lineSpan 9 10) (.name default "title") (.name default "str") none]

/-- The same tuples behind the fields, which stand in another order, one without its first place and one
    not at all. -/
def rearrangedLedgerBody : List Stmt :=
  [.assign (lineSpan 4 10) [.name default "pages"] (.literal default (.int 10)),
   .simple (lineSpan 5 4),
   .annotate (lineSpan 6 8) (.name default "owner") (.name default "str") none,
   .assign (lineSpan 7 40) [.name default "__private__", .name default "__public__"]
     (.tuple default [stringLiteral "owner"]),
   .annotate (lineSpan 8 40) (.name default "__internal__") (.name default "list")
     (some (.list default [stringLiteral "pages", stringLiteral "owner"])),
   .assign (lineSpan 9 40) [.name default "__public__"]
     (.set default [stringLiteral "title", stringLiteral "pages"])]

def ledger : Declaration where
  kind := .record
  name := "Ledger"
  members :=
    [⟨[⟨"owner", true⟩], some "str", none, ["private", "public", "internal"], false, 4⟩,
     ⟨[⟨"pages", true⟩], none, some ⟨.integer, "10"⟩, ["internal", "public"], false, 8⟩,
     ⟨[⟨"title", true⟩], some "str", none, ["public"], false, 9⟩]
  signatures := []
  qualifiedName := "Ledger"
  location := ⟨sourceName, 3, 9, 0, fourBlanks⟩

def rearrangedLedger : Declaration :=
  { ledger with
    members :=
      [⟨[⟨"pages", true⟩], none, some ⟨.integer, "10"⟩, ["internal", "public"], false, 4⟩,
       ⟨[⟨"owner", true⟩], some "str", none, ["private", "public", "internal"], false, 6⟩] }

/-- The pages are internal, since that tuple stands above the one of exposed names. -/
theorem visibility_of_first_tuple_ledger :
    membersOf ledgerBody = .ok ledger.members ∧
    membersOf rearrangedLedgerBody = .ok rearrangedLedger.members ∧
    SameTuples ledgerBody rearrangedLedgerBody ∧
    ⟨"pages", "int", .internal, true, 8⟩ ∈ ledger.fields ∧
    SeenAs ledgerBody "pages" .internal ∧
    ∀ f ∈ rearrangedLedger.fields, f.name = "pages" → f.visibility = .internal := by
  have hmembers : membersOf ledgerBody = .ok ledger.members := by decide +kernel
  have hmembers' : membersOf rearrangedLedgerBody = .ok rearrangedLedger.members := by decide +kernel
  have hsame : SameTuples ledgerBody rearrangedLedgerBody := rfl
  have hfield : ⟨"pages", "int", .internal, true, 8⟩ ∈ ledger.fields := by decide +kernel
  obtain ⟨hseen, hkept⟩ := visibility_of_first_tuple hmembers hfield
  exact ⟨hmembers, hmembers', hsame, hfield, (hseen .internal).1 rfl,
    hkept rearrangedLedger rearrangedLedgerBody hmembers' hsame⟩

end RecordLens
