import Mathlib.Data.List.Induction
import RecordLens.Command.Basic
import RecordLens.Proofs.Outcome
/-!
What command lines do to files. A file is written by the expansion of a file into another one (or into
itself), once the expansion is known to hold no error, and by nothing else. Commands run one after
another, and each of them reads the files as the ones before it left them.

* `run_written_iff`: when a command line writes a file, and with which text.
* `Tree.place_putAt`, `Tree.setsOnly_put`: a file that is put stands where it was put.
* `Tree.lookup_putAt`: and no other file is touched.
* `Tree.lookup_after`: after any number of runs a file is as the last run that set it left it.
* `runs_set_expansions`: both for every run of a sequence and for the sequence as a whole.
-/
namespace RecordLens

/-! ## When a command writes -/

namespace Outcome

@[simp] theorem after_written (o : Outcome) (lines : List String) :
    (o.after lines).written = o.written := rfl

@[simp] theorem after_ending (o : Outcome) (lines : List String) :
    (o.after lines).ending = o.ending := rfl

@[simp] theorem ofFileFault_written (style : Style) (path : String) (fault : FileFault) :
    (ofFileFault style path fault).written = none := by
  cases fault <;> rfl

@[simp] theorem ofSourceError_written (style : Style) (fault : SourceError) :
    (ofSourceError style fault).written = none := by
  cases fault <;> rfl

end Outcome

variable {look : String → Entry} {style : Style} {file path text : String}

theorem filter_named (h : path ≠ "") : (some path).filter (· ≠ "") = some path :=
  Option.filter_eq_some_iff.2 ⟨rfl, decide_eq_true h⟩

theorem Expansion.deliver_of_success (e : Expansion) (hsuccess : e.success = true) (hnamed : path ≠ "")
    (hwrite : (look path).write = .ok ()) : e.deliver look style file (some path) =
      { ending := .returned 0, written := some (path, e.text),
        output := textOfLines [style.success (file ++ " → " ++ path ++ " (" ++
          toString e.plans.length ++ " declaration(s))")] } := by
  rw [deliver, hsuccess, filter_named hnamed, if_neg (by decide)]
  simp only [hwrite]

theorem Expansion.deliver_written (e : Expansion) {output : Option String} :
    (e.deliver look style file output).written = some (path, text) ↔
      e.success = true ∧ output = some path ∧ path ≠ "" ∧ (look path).write = .ok () ∧
        text = e.text := by
  constructor
  · intro h
    unfold deliver at h
    split at h
    · exact absurd h nofun
    next hsuccess =>
      split at h
      · exact absurd h nofun
      next name hnamed =>
        obtain ⟨houtput, hname⟩ := Option.filter_eq_some_iff.1 hnamed
        split at h
        · rw [Outcome.ofFileFault_written] at h
          exact absurd h nofun
        next hwrite =>
          obtain ⟨rfl, rfl⟩ := Prod.mk.inj (Option.some.inj h)
          exact ⟨by simpa using hsuccess, houtput, of_decide_eq_true hname, hwrite, rfl⟩
  · rintro ⟨hsuccess, rfl, hnamed, hwrite, rfl⟩
    rw [e.deliver_of_success hsuccess hnamed hwrite]

theorem Expansion.compare_written (e : Expansion) (expanded : Option String) :
    (e.compare look style file expanded).written = none := by
  unfold compare
  split
  · rfl
  split
  · rfl
  dsimp only
  split
  · exact Outcome.ofFileFault_written _ _ _
  · rfl
  split
  · exact Outcome.ofFileFault_written _ _ _
  split <;> rfl

/-- Of a command that reads and expands a file is the case what is the case once the expansion is known,
    if it is of no fault and the trace in front of the errors does not matter. -/
theorem withExpansion_iff {Q : Outcome → Prop} (hafter : ∀ o lines, Q (o.after lines) ↔ Q o)
    (hfile : ∀ style path fault, ¬Q (.ofFileFault style path fault))
    (hsource : ∀ style fault, ¬Q (.ofSourceError style fault)) {request : Request}
    {next : Style → Expansion → Outcome} : Q (withExpansion look request file next) ↔
      ∃ source e, (look file).read = .ok source ∧ expand file source = .ok e ∧
        Q (next ⟨request.colours⟩ e) := by
  have htraced (outcome : Outcome) (lines : List String) :
      Q (if request.verbose then outcome.after lines else outcome) ↔ Q outcome := by
    split
    · exact hafter outcome lines
    · rfl
  unfold withExpansion
  cases (look file).read with
  | error fault => exact iff_of_false (hfile _ _ _) nofun
  | ok source =>
    dsimp only
    rw [htraced]
    cases hexpand : expand file source with
    | error fault =>
      refine iff_of_false (hsource _ _) ?_
      rintro ⟨_, e, hread, he, -⟩
      obtain rfl := Except.ok.inj hread
      exact error_ne_ok (hexpand.symm.trans he)
    | ok e =>
      constructor
      · exact fun h => ⟨source, e, rfl, hexpand, h⟩
      · rintro ⟨_, e', hread, he, h⟩
        obtain rfl := Except.ok.inj hread
        obtain rfl := Except.ok.inj (hexpand.symm.trans he)
        exact h

theorem withExpansion_written {request : Request} {next : Style → Expansion → Outcome}
    {w : String × String} : (withExpansion look request file next).written = some w ↔
      ∃ source e, (look file).read = .ok source ∧ expand file source = .ok e ∧
        (next ⟨request.colours⟩ e).written = some w := by
  have hnone {outcome : Outcome} (h : outcome.written = none) : ¬outcome.written = some w := by
    rw [h]
    nofun
  exact withExpansion_iff (Q := fun outcome => outcome.written = some w) (fun _ _ => Iff.rfl)
    (fun style path fault => hnone (Outcome.ofFileFault_written style path fault))
    fun style fault => hnone (Outcome.ofSourceError_written style fault)

/-- A command line asks for a file to be expanded into one with a name. The file can be read, and its
    text expands without an error. -/
def Saves (look : String → Entry) (words : List String) (path : String) (e : Expansion) : Prop :=
  path ≠ "" ∧ e.success = true ∧ ∃ colours verbose file source,
    Request.ofWords words = .ok ⟨colours, verbose, some (.expand file (some path))⟩ ∧
    (look file).read = .ok source ∧ expand file source = .ok e

variable {words : List String}

/-- A command line writes a file if and only if it saves an expansion there and the file can be
    written. -/
theorem run_written_iff : (run look words).written = some (path, text) ↔
    ∃ e, Saves look words path e ∧ (look path).write = .ok () ∧ text = e.text := by
  constructor
  · intro h
    unfold run at h
    split at h
    · exact absurd h nofun
    · exact absurd h nofun
    next request hwords =>
    obtain ⟨colours, verbose, command⟩ := request
    cases command with
    | none => exact absurd h nofun
    | some command =>
      cases command with
      | expand file output =>
        obtain ⟨source, e, hread, hexpand, hwritten⟩ := withExpansion_written.1 h
        obtain ⟨hsuccess, rfl, hnamed, hwrite, htext⟩ := e.deliver_written.1 hwritten
        exact ⟨e, ⟨hnamed, hsuccess, _, _, _, _, hwords, hread, hexpand⟩, hwrite, htext⟩
      | plan file asDocument =>
        obtain ⟨source, e, -, -, hwritten⟩ := withExpansion_written.1 h
        cases asDocument <;> exact absurd hwritten nofun
      | check file expanded =>
        obtain ⟨source, e, -, -, hwritten⟩ := withExpansion_written.1 h
        rw [Outcome.after_written, e.compare_written] at hwritten
        exact absurd hwritten nofun
  · rintro ⟨e, ⟨hnamed, hsuccess, _, _, _, _, hwords, hread, hexpand⟩, hwrite, htext⟩
    rw [run, hwords]
    refine withExpansion_written.2 ⟨_, e, hread, hexpand, ?_⟩
    exact e.deliver_written.2 ⟨hsuccess, rfl, hnamed, hwrite, htext⟩

theorem Saves.ending {e : Expansion} (h : Saves look words path e)
    (hwrite : (look path).write = .ok ()) : (run look words).ending = .returned 0 := by
  obtain ⟨hnamed, hsuccess, _, verbose, file, source, hwords, hread, hexpand⟩ := h
  rw [run, hwords]
  dsimp only
  rw [Command.run, withExpansion, hread]
  dsimp only
  rw [hexpand]
  dsimp only
  rw [e.deliver_of_success hsuccess hnamed hwrite]
  cases verbose <;> rfl

/-! ## Files that are put -/

theorem Entry.read_toUTF8 (s : String) :
    (Entry.file s.toUTF8).read = .ok (String.ofList (Text.unifyLineEnds s.toList)) := by
  have hvalid : s.toUTF8.IsValidUTF8 := s.isValidUTF8
  have hback : String.fromUTF8? s.toUTF8 = some s := by
    rw [String.fromUTF8?, dif_pos hvalid]
    rfl
  rw [read, decode, hback]

namespace Tree

variable {tree : Tree} {place q : Place} {content : ByteArray}

/-- A file is set at its place, and all other files stay. -/
theorem lookup_putAt (place q : Place) (content : ByteArray) (tree : Tree) :
    (putAt place content tree).lookup q = if q = place then some content else tree.lookup q := by
  induction tree with
  | nil =>
    rw [putAt, List.lookup_cons, List.lookup_nil]
    by_cases h : q = place
    · rw [if_pos h, h, beq_self_eq_true]
    · rw [if_neg h, beq_false_of_ne h]
  | cons e es ih =>
    obtain ⟨p, old⟩ := e
    rw [putAt]
    dsimp only
    by_cases hp : p = place
    · rw [if_pos hp, List.lookup_cons, List.lookup_cons, hp]
      by_cases h : q = place
      · rw [if_pos h, h, beq_self_eq_true]
      · rw [if_neg h, beq_false_of_ne h]
    · rw [if_neg hp, List.lookup_cons, List.lookup_cons, ih]
      by_cases h : q = p
      · rw [h, beq_self_eq_true, if_neg hp, if_neg hp]
      · rw [beq_false_of_ne h]

theorem mem_putAt (place : Place) (content : ByteArray) {e : Place × ByteArray} (h : e ∈ tree) :
    ∃ e' ∈ putAt place content tree, e'.1 = e.1 := by
  induction tree with
  | nil => exact absurd h List.not_mem_nil
  | cons first rest ih =>
    rw [putAt]
    rcases List.mem_cons.1 h with rfl | hrest
    · split
      next hplace => exact ⟨_, List.mem_cons_self, hplace.symm⟩
      · exact ⟨_, List.mem_cons_self, rfl⟩
    · split
      · exact ⟨e, List.mem_cons_of_mem _ hrest, rfl⟩
      · obtain ⟨e', he', hplace⟩ := ih hrest
        exact ⟨e', List.mem_cons_of_mem _ he', hplace⟩

theorem at?_putAt_of_folder (hne : q ≠ place) (h : tree.at? q = some .folder) :
    at? (putAt place content tree) q = some .folder := by
  unfold at? at h ⊢
  rw [lookup_putAt, if_neg hne]
  cases hfile : tree.lookup q with
  | some old =>
    rw [hfile] at h
    exact absurd (Option.some.inj h) nofun
  | none =>
    rw [hfile] at h
    dsimp only at h ⊢
    split at h
    next hfolder =>
      -- a folder is there because of the files in it, and none of them is taken away
      refine if_pos (hfolder.imp_right fun hany => ?_)
      obtain ⟨e, he, hbelow⟩ := List.any_eq_true.1 hany
      obtain ⟨e', he', hplace⟩ := mem_putAt place content he
      exact List.any_eq_true.2 ⟨e', he', by rw [hplace]; exact hbelow⟩
    · exact absurd h nofun

/-- Paths lead to the places they led to, where a file is put that is no folder. -/
theorem follow_putAt (hplace : tree.at? place ≠ some .folder) {parts : List String} : ∀ {start : Place},
    tree.follow start parts = .ok q → follow (putAt place content tree) start parts = .ok q := by
  induction parts with
  | nil => exact fun h => h
  | cons part parts ih =>
    intro start h
    rw [follow] at h ⊢
    split at h
    next hfolder =>
      -- a path goes on from folders only, and the file is put at none of them
      have hne : start ≠ place := fun heq => hplace (heq ▸ hfolder)
      rw [at?_putAt_of_folder hne hfolder]
      exact ih h
    · exact absurd h error_ne_ok
    · exact absurd h error_ne_ok

theorem place_putAt (hplace : tree.at? place ≠ some .folder) {p : Path} (h : tree.place p = .ok q) :
    Tree.place (putAt place content tree) p = .ok q := by
  unfold Tree.place at h ⊢
  split at h
  · exact absurd h error_ne_ok
  split at h
  · exact absurd h error_ne_ok
  split at h
  next hbad hlong hroot =>
    rw [if_neg hbad, if_neg hlong, if_pos hroot]
    exact follow_putAt hplace h
  split at h <;> exact absurd h error_ne_ok

/-- Where the parts of a path lead nowhere, nothing can be written. -/
theorem write_of_follow {parts : List String} {e : Entry} : ∀ {start : Place},
    tree.follow start parts = .error e → e.write ≠ .ok () := by
  induction parts with
  | nil => exact fun h => absurd h nofun
  | cons part parts ih =>
    intro start h
    rw [follow] at h
    split at h
    · exact ih h
    · obtain rfl := Except.error.inj h
      nofun
    · obtain rfl := Except.error.inj h
      nofun

theorem place_of_write (h : (tree.entry path).write = .ok ()) :
    ∃ place, tree.place (Path.ofText path) = .ok place ∧ tree.at? place ≠ some .folder := by
  unfold entry at h
  cases hplace : tree.place (Path.ofText path) with
  | ok place =>
    rw [hplace] at h
    refine ⟨place, rfl, fun hfolder => ?_⟩
    dsimp only at h
    rw [hfolder] at h
    exact absurd h nofun
  | error e =>
    rw [hplace] at h
    unfold Tree.place at hplace
    split at hplace
    · obtain rfl := Except.error.inj hplace
      exact absurd h nofun
    split at hplace
    · obtain rfl := Except.error.inj hplace
      exact absurd h nofun
    split at hplace
    · exact absurd h (write_of_follow hplace)
    split at hplace
    all_goals
      obtain rfl := Except.error.inj hplace
      exact absurd h nofun

/-- Between two trees only the file of one path is set. -/
def SetsOnly (before after : Tree) (path : String) (content : ByteArray) : Prop :=
  ∃ place, before.place (Path.ofText path) = .ok place ∧ after.entry path = .file content ∧
    ∀ q, after.lookup q = if q = place then some content else before.lookup q

/-- A file that can be written is put where its path leads, and reading the path finds it. -/
theorem setsOnly_put (content : ByteArray) (h : (tree.entry path).write = .ok ()) :
    SetsOnly tree (tree.put path content) path content := by
  obtain ⟨place, hplace, hfree⟩ := place_of_write h
  have hput : tree.put path content = putAt place content tree := by
    rw [put, hplace, h]
  refine ⟨place, hplace, ?_, fun q => ?_⟩
  · rw [hput, entry, place_putAt hfree hplace]
    dsimp only
    rw [at?, lookup_putAt, if_pos rfl]
    rfl
  · rw [hput, lookup_putAt]

/-! ## Runs -/

/-- The tree after command lines that are run one after another. -/
def after (tree : Tree) (runs : List (List String)) : Tree :=
  runs.foldl (fun tree words => (runIn tree words).2) tree

theorem after_append (tree : Tree) (runs more : List (List String)) :
    tree.after (runs ++ more) = (tree.after runs).after more := List.foldl_append

theorem after_singleton (tree : Tree) (words : List String) :
    tree.after [words] = (runIn tree words).2 := rfl

/-- A command line sets the file at a place, in a tree. -/
def Sets (tree : Tree) (words : List String) (place : Place) (content : ByteArray) : Prop :=
  ∃ path e, Saves tree.entry words path e ∧ (tree.entry path).write = .ok () ∧
    tree.place (Path.ofText path) = .ok place ∧ content = e.text.toUTF8

/-- None of the command lines sets the file at a place. -/
def Spared (tree : Tree) (runs : List (List String)) (place : Place) : Prop :=
  ∀ before words later, runs = before ++ words :: later →
    ∀ content, ¬(tree.after before).Sets words place content

end Tree

theorem runIn_eq_put {tree : Tree} {e : Expansion} (h : Saves tree.entry words path e)
    (hwrite : (tree.entry path).write = .ok ()) :
    (runIn tree words).2 = tree.put path e.text.toUTF8 := by
  have hwritten : (run tree.entry words).written = some (path, e.text) :=
    run_written_iff.2 ⟨e, h, hwrite, rfl⟩
  rw [runIn, hwritten]

/-- A command line that saves an expansion sets this file and no other one. -/
theorem runIn_of_saves {tree : Tree} {e : Expansion} (h : Saves tree.entry words path e)
    (hwrite : (tree.entry path).write = .ok ()) :
    Tree.SetsOnly tree (runIn tree words).2 path e.text.toUTF8 := by
  rw [runIn_eq_put h hwrite]
  exact Tree.setsOnly_put _ hwrite

theorem runIn_of_not_saves {tree : Tree}
    (h : ∀ path e, Saves tree.entry words path e → (tree.entry path).write ≠ .ok ()) :
    (runIn tree words).2 = tree := by
  rw [runIn]
  cases hwritten : (run tree.entry words).written with
  | none => rfl
  | some w =>
    obtain ⟨e, hsaves, hwrite, -⟩ := run_written_iff.1 hwritten
    exact absurd hwrite (h w.1 e hsaves)

namespace Tree

variable {tree : Tree} {place : Place} {content : ByteArray} {runs : List (List String)}

/-- A run sets the file at a place, or leaves it. -/
theorem lookup_runIn (tree : Tree) (words : List String) (place : Place) :
    (∃ content, tree.Sets words place content ∧ (runIn tree words).2.lookup place = some content) ∨
    (∀ content, ¬tree.Sets words place content) ∧
      (runIn tree words).2.lookup place = tree.lookup place := by
  by_cases h : ∃ content, tree.Sets words place content
  · obtain ⟨content, path, e, hsaves, hwrite, hplace, rfl⟩ := h
    obtain ⟨there, hthere, -, hlookup⟩ := runIn_of_saves hsaves hwrite
    obtain rfl := Except.ok.inj (hplace.symm.trans hthere)
    exact .inl ⟨_, ⟨path, e, hsaves, hwrite, hplace, rfl⟩, by rw [hlookup, if_pos rfl]⟩
  · refine .inr ⟨not_exists.1 h, ?_⟩
    by_cases hsome : ∃ path e, Saves tree.entry words path e ∧ (tree.entry path).write = .ok ()
    · obtain ⟨path, e, hsaves, hwrite⟩ := hsome
      obtain ⟨there, hthere, -, hlookup⟩ := runIn_of_saves hsaves hwrite
      have hne : place ≠ there := by
        rintro rfl
        exact h ⟨_, path, e, hsaves, hwrite, hthere, rfl⟩
      rw [hlookup, if_neg hne]
    · rw [runIn_of_not_saves fun path e hsaves hwrite => hsome ⟨path, e, hsaves, hwrite⟩]

theorem Spared.concat (h : tree.Spared runs place)
    (hlast : ∀ content, ¬(tree.after runs).Sets words place content) :
    tree.Spared (runs ++ [words]) place := by
  intro before words' rest heq
  rcases List.eq_nil_or_concat' rest with rfl | ⟨rest, last, rfl⟩
  · obtain ⟨rfl, hwords⟩ := List.append_inj' heq rfl
    obtain rfl := List.singleton_inj.1 hwords
    exact hlast
  · rw [← List.cons_append, ← List.append_assoc] at heq
    exact h before words' rest (List.append_inj' heq rfl).1

/-- After any number of runs a file is as it was at first, or as the last run that set it left it. -/
theorem lookup_after (tree : Tree) (runs : List (List String)) (place : Place) :
    (tree.Spared runs place ∧ (tree.after runs).lookup place = tree.lookup place) ∨
    ∃ before words later content, runs = before ++ words :: later ∧
      (tree.after before).Sets words place content ∧
      (tree.after (before ++ [words])).Spared later place ∧
      (tree.after runs).lookup place = some content := by
  -- from the last run backwards: it sets the file, or leaves it as the runs before it did
  induction runs using List.reverseRecOn with
  | nil => exact .inl ⟨fun _ _ _ h => absurd h (by simp), rfl⟩
  | append_singleton runs words ih =>
    rw [after_append, after_singleton]
    rcases lookup_runIn (tree.after runs) words place with ⟨content, hsets, hlookup⟩ | ⟨hnot, hlookup⟩
    · exact .inr ⟨runs, words, [], content, rfl, hsets, fun _ _ _ h => absurd h (by simp), hlookup⟩
    · rw [hlookup]
      rcases ih with ⟨hnone, hsame⟩ | ⟨before, words', later, content, rfl, hsets, hnone, hfound⟩
      · exact .inl ⟨hnone.concat hnot, hsame⟩
      · refine .inr ⟨before, words', later ++ [words], content, ?_, hsets, hnone.concat ?_, hfound⟩
        · rw [List.append_assoc, List.cons_append]
        · rw [← after_append, List.append_assoc, List.singleton_append]
          exact hnot

end Tree

/-- **Command lines set expansions and nothing else.** In any sequence of runs a run that saves an
    expansion in a file that can be written ends with success and sets this file, and this file only, to
    the expanded text; every other run leaves the tree as it is. So at the end each file is as it was at
    first, or as the last run that set it left it. -/
theorem runs_set_expansions (tree : Tree) (runs : List (List String)) :
    (∀ before words later, runs = before ++ words :: later →
      let now := tree.after before
      let next := tree.after (before ++ [words])
      (∀ path e, Saves now.entry words path e → (now.entry path).write = .ok () →
        (runIn now words).1.ending = .returned 0 ∧ now.SetsOnly next path e.text.toUTF8) ∧
      ((∀ path e, Saves now.entry words path e → (now.entry path).write ≠ .ok ()) → next = now)) ∧
    ∀ place, (tree.Spared runs place ∧ (tree.after runs).lookup place = tree.lookup place) ∨
      ∃ before words later content, runs = before ++ words :: later ∧
        (tree.after before).Sets words place content ∧
        (tree.after (before ++ [words])).Spared later place ∧
        (tree.after runs).lookup place = some content := by
  refine ⟨fun before words later _ => ?_, tree.lookup_after runs⟩
  intro now next
  have hnext : next = (runIn now words).2 := by
    rw [← Tree.after_singleton, ← Tree.after_append]
  rw [hnext]
  constructor
  · intro path e hsaves hwrite
    refine ⟨?_, runIn_of_saves hsaves hwrite⟩
    rw [runIn]
    have hending := hsaves.ending hwrite
    split <;> exact hending
  · exact runIn_of_not_saves

/-- A file with a record. -/
def savedFile : String := "@autolens\n@dataclass(frozen=True)\nclass A:\n    x: int\n"

/-- A folder that holds this file only. -/
def savedTree : Tree := [(⟨0, ["a.py"]⟩, savedFile.toUTF8)]

/-- A look at the plan of the file, and then its expansion into itself. -/
theorem runs_set_expansions_inPlace :
    let words := ["expand", "a.py", "-o", "a.py"]
    ∃ e, expand "a.py" savedFile = .ok e ∧ e.text ≠ savedFile ∧
      savedTree.after [["plan", "a.py"]] = savedTree ∧
      Saves savedTree.entry words "a.py" e ∧ (savedTree.entry "a.py").write = .ok () ∧
      (runIn savedTree words).1.ending = .returned 0 ∧
      savedTree.SetsOnly (savedTree.after [["plan", "a.py"], words]) "a.py" e.text.toUTF8 := by
  intro words
  have hentry : savedTree.entry "a.py" = .file savedFile.toUTF8 := rfl
  have hread : (savedTree.entry "a.py").read = .ok savedFile := by
    rw [hentry, Entry.read_toUTF8]
    decide +kernel
  have hrun : (expand "a.py" savedFile).toOption.any
      (fun e => e.success && e.text ≠ savedFile) = true := by decide +kernel
  cases hexpand : expand "a.py" savedFile with
  | error fault =>
    rw [hexpand] at hrun
    exact absurd hrun Bool.false_ne_true
  | ok e =>
    rw [hexpand] at hrun
    obtain ⟨hsuccess, hchanged⟩ := Bool.and_eq_true_iff.1 hrun
    have hsaves : Saves savedTree.entry words "a.py" e :=
      ⟨by decide, hsuccess, true, false, "a.py", savedFile, by decide +kernel, hread, hexpand⟩
    have hwrite : (savedTree.entry "a.py").write = .ok () := by rw [hentry]; rfl
    have hplan : savedTree.after [["plan", "a.py"]] = savedTree := by
      refine ((runs_set_expansions savedTree [["plan", "a.py"], words]).1 [] _ _ rfl).2 ?_
      rintro path e ⟨-, -, colours, verbose, file, source, hwords, -⟩
      have hasked : Request.ofWords ["plan", "a.py"] =
        .ok ⟨true, false, some (.plan "a.py" false)⟩ := by decide +kernel
      have hsame : Command.plan "a.py" false = .expand file (some path) :=
        Option.some.inj (congrArg Request.command (Except.ok.inj (hasked.symm.trans hwords)))
      exact Command.noConfusion hsame
    have hstep := ((runs_set_expansions savedTree [["plan", "a.py"], words]).1
      [["plan", "a.py"]] words [] rfl).1 "a.py" e
    rw [hplan] at hstep
    exact ⟨e, rfl, of_decide_eq_true hchanged, hplan, hsaves, hwrite, hstep hsaves hwrite⟩

end RecordLens
