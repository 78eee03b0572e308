import RecordLens.Proofs.UnifiedExpansion
import RecordLens.Proofs.WrittenFiles
/-!
Files that are up to date. A check ends with success if and only if the second file holds what the first
one expands to. Reading turns all line ends into line feeds and writing leaves them as they are, so a
file is read as it was written only if what was written holds no carriage return. Expansions hold none,
since the texts that are expanded were read.

* `Entry.Holds`, `Entry.read_eq_ok_iff`: the text of a file.
* `check_returned_iff`: when a check ends with success.
* `exists_saved_of_returned`: what has been written when an expansion ends with success.
* `check_decides_freshness`: both together.
-/
namespace RecordLens

/-! ## Texts in files -/

/-- A file in UTF-8 whose text, with line feeds for all line ends, is `s`. -/
def Entry.Holds (entry : Entry) (s : String) : Prop :=
  ∃ text : String, entry = .file text.toUTF8 ∧ s = String.ofList (Text.unifyLineEnds text.toList)

variable {s : String}

/-- Bytes that can be read are those of their text. -/
theorem Entry.read_eq_ok_iff {entry : Entry} : entry.read = .ok s ↔ entry.Holds s := by
  constructor
  · intro h
    cases entry with
    | file content =>
      rw [read, decode, String.fromUTF8?] at h
      by_cases hvalid : content.IsValidUTF8
      · rw [dif_pos hvalid] at h
        exact ⟨.fromUTF8 content hvalid, rfl, (Except.ok.inj h).symm⟩
      · rw [dif_neg hvalid] at h
        exact absurd h error_ne_ok
    | _ => exact absurd h error_ne_ok
  · rintro ⟨text, rfl, rfl⟩
    exact Entry.read_toUTF8 text

namespace Entry.Holds

variable {entry : Entry}

theorem unified (h : entry.Holds s) : Text.Unified s := by
  obtain ⟨text, -, rfl⟩ := h
  exact Text.unified_unifyLineEnds text.toList

theorem of_unified (h : Text.Unified s) : (Entry.file s.toUTF8).Holds s :=
  ⟨s, rfl, by rw [Text.unifyLineEnds_eq_self h, String.ofList_toList]⟩

end Entry.Holds

theorem Tree.entry_put_of_ne {tree : Tree} {path other : String} {content old : ByteArray}
    (hwrite : (tree.entry path).write = .ok ())
    (hne : tree.place (Path.ofText other) ≠ tree.place (Path.ofText path))
    (hfile : tree.entry other = .file old) :
    Tree.entry (tree.put path content) other = .file old := by
  obtain ⟨place, hplace, hfree⟩ := place_of_write hwrite
  have hplaced : (tree.entry other).write = .ok () := by
    rw [hfile]
    rfl
  -- a file could be written where one stands, so the path has a place
  obtain ⟨there, hthere, -⟩ := place_of_write hplaced
  have hput : tree.put path content = putAt place content tree := by
    rw [put, hplace, hwrite]
  have hplaces : there ≠ place := fun h => hne (by rw [hthere, hplace, h])
  unfold entry at hfile ⊢
  rw [hthere] at hfile
  rw [hput, place_putAt hfree hthere]
  dsimp only at hfile ⊢
  unfold at? at hfile ⊢
  rw [lookup_putAt, if_neg hplaces]
  cases hlookup : tree.lookup there with
  | some known =>
    rw [hlookup] at hfile
    exact hfile
  | none =>
    rw [hlookup] at hfile
    dsimp only at hfile
    split at hfile <;> exact Entry.noConfusion hfile

/-! ## Endings -/

namespace Outcome

theorem ofFileFault_ending (style : Style) (path : String) (fault : FileFault) :
    (ofFileFault style path fault).ending ≠ .returned 0 := by
  cases fault <;> nofun

theorem ofSourceError_ending (style : Style) (fault : SourceError) :
    (ofSourceError style fault).ending ≠ .returned 0 := by
  cases fault <;> nofun

end Outcome

variable {look : String → Entry} {style : Style} {words : List String} {colours verbose : Bool}
  {file path : String}

/-- Comparing ends with success if the expansion has no error and the file holds its text. -/
theorem Expansion.compare_returned (e : Expansion) :
    (e.compare look style file (some path)).ending = .returned 0 ↔
      e.success = true ∧ (look path).Holds e.text := by
  constructor
  · intro h
    unfold compare at h
    split at h
    · exact absurd h nofun
    next hsuccess =>
      dsimp only at h
      split at h
      · exact absurd h (Outcome.ofFileFault_ending _ _ _)
      · exact absurd h nofun
      split at h
      · exact absurd h (Outcome.ofFileFault_ending _ _ _)
      next text hread =>
        split at h
        next htext => exact ⟨by simpa using hsuccess, Entry.read_eq_ok_iff.1 (htext ▸ hread)⟩
        · exact absurd h nofun
  · rintro ⟨hsuccess, hholds⟩
    have hthere : (look path).isThere = .ok true := by
      obtain ⟨text, hfile, -⟩ := hholds
      rw [hfile]
      rfl
    rw [compare, hsuccess, if_neg (by decide)]
    dsimp only
    rw [hthere, Entry.read_eq_ok_iff.2 hholds]
    dsimp only
    rw [if_pos rfl]

theorem Expansion.deliver_returned (e : Expansion) (hnamed : path ≠ "") :
    (e.deliver look style file (some path)).ending = .returned 0 ↔
      e.success = true ∧ (look path).write = .ok () := by
  constructor
  · intro h
    unfold deliver at h
    split at h
    · exact absurd h nofun
    next hsuccess =>
      rw [filter_named hnamed] at h
      dsimp only at h
      split at h
      · exact absurd h (Outcome.ofFileFault_ending _ _ _)
      next hwrite => exact ⟨by simpa using hsuccess, hwrite⟩
  · rintro ⟨hsuccess, hwrite⟩
    rw [e.deliver_of_success hsuccess hnamed hwrite]

theorem withExpansion_returned {request : Request} {next : Style → Expansion → Outcome} :
    (withExpansion look request file next).ending = .returned 0 ↔
      ∃ source e, (look file).read = .ok source ∧ expand file source = .ok e ∧
        (next ⟨request.colours⟩ e).ending = .returned 0 :=
  withExpansion_iff (Q := fun outcome => outcome.ending = .returned 0) (fun _ _ => Iff.rfl)
    Outcome.ofFileFault_ending Outcome.ofSourceError_ending

theorem runIn_ending (tree : Tree) (words : List String) :
    (runIn tree words).1.ending = (run tree.entry words).ending := by
  unfold runIn
  dsimp only
  split <;> rfl

/-- A check ends with success if and only if the first file expands without an error and the second
    one holds what it expands to. -/
theorem check_returned_iff
    (hwords : Request.ofWords words = .ok ⟨colours, verbose, some (.check file (some path))⟩) :
    (run look words).ending = .returned 0 ↔ ∃ source e, (look file).Holds source ∧
      expand file source = .ok e ∧ e.success = true ∧ (look path).Holds e.text := by
  rw [run, hwords]
  refine withExpansion_returned.trans ?_
  simp only [Entry.read_eq_ok_iff, Outcome.after_ending, Expansion.compare_returned]

/-- An expansion into a file that ends with success has put there what the first file expands to. -/
theorem exists_saved_of_returned {tree : Tree}
    (hwords : Request.ofWords words = .ok ⟨colours, verbose, some (.expand file (some path))⟩)
    (hnamed : path ≠ "") (h : (runIn tree words).1.ending = .returned 0) :
    ∃ source e, (tree.entry file).Holds source ∧ expand file source = .ok e ∧ e.success = true ∧
      (tree.entry path).write = .ok () ∧ (runIn tree words).2 = tree.put path e.text.toUTF8 := by
  rw [runIn_ending, run, hwords] at h
  obtain ⟨source, e, hread, hexpand, hdeliver⟩ := withExpansion_returned.1 h
  obtain ⟨hsuccess, hwrite⟩ := (e.deliver_returned hnamed).1 hdeliver
  have hsaves : Saves tree.entry words path e :=
    ⟨hnamed, hsuccess, colours, verbose, file, source, hwords, hread, hexpand⟩
  exact ⟨source, e, Entry.read_eq_ok_iff.1 hread, hexpand, hsuccess, hwrite,
    runIn_eq_put hsaves hwrite⟩

/-- **A check decides whether a file is up to date, and an expansion that was written is.** A check ends
    with success if and only if the first file is a text that expands without an error, and the second
    one is a text that is, with line feeds for its line ends, just what the first one expands to with
    line feeds for its own. So once the first file has been expanded into another one with success, a
    check of the two ends with success in whatever tree they are as they were then. -/
theorem check_decides_freshness
    (hcheck : Request.ofWords words = .ok ⟨colours, verbose, some (.check file (some path))⟩) :
    (∀ tree : Tree, (runIn tree words).1.ending = .returned 0 ↔
      ∃ source e, (tree.entry file).Holds source ∧ expand file source = .ok e ∧ e.success = true ∧
        (tree.entry path).Holds e.text) ∧
    ∀ (tree : Tree) (saving : List String) (colours' verbose' : Bool),
      Request.ofWords saving = .ok ⟨colours', verbose', some (.expand file (some path))⟩ →
      path ≠ "" → tree.place (Path.ofText file) ≠ tree.place (Path.ofText path) →
      (runIn tree saving).1.ending = .returned 0 →
      ∀ later : Tree, later.entry file = (runIn tree saving).2.entry file →
        later.entry path = (runIn tree saving).2.entry path →
        (runIn later words).1.ending = .returned 0 := by
  have hdecides (tree : Tree) : (runIn tree words).1.ending = .returned 0 ↔
      ∃ source e, (tree.entry file).Holds source ∧ expand file source = .ok e ∧ e.success = true ∧
        (tree.entry path).Holds e.text := by
    rw [runIn_ending]
    exact check_returned_iff hcheck
  refine ⟨hdecides, fun tree saving _ _ hsaving hnamed hne hending later hfile hpath => ?_⟩
  obtain ⟨source, e, hsource, hexpand, hsuccess, hwrite, hput⟩ :=
    exists_saved_of_returned hsaving hnamed hending
  rw [hput] at hfile hpath
  refine (hdecides later).2 ⟨source, e, ?_, hexpand, hsuccess, ?_⟩
  · -- the first file is as it was, since what was put stands elsewhere
    obtain ⟨text, hentry, rfl⟩ := hsource
    exact ⟨text, hfile.trans (Tree.entry_put_of_ne hwrite hne hentry), rfl⟩
  · -- the other one is read as it was written, since what expands was read
    obtain ⟨-, -, hwritten, -⟩ := Tree.setsOnly_put e.text.toUTF8 hwrite
    rw [hpath, hwritten]
    exact Entry.Holds.of_unified (expand_yields hsource.unified e hexpand)

/-- A file with a record. Its lines end with carriage returns, the last one with nothing. -/
def returnedFile : String := "@autolens\r\n@dataclass(frozen=True)\rclass A:\r\n    x: int"

/-- A folder that holds this file only. -/
def returnedTree : Tree := [(⟨0, ["a.py"]⟩, returnedFile.toUTF8)]

/-- Its expansion into another file, and a check of the two. -/
theorem check_decides_freshness_returned :
    let saving := ["expand", "a.py", "-o", "b.py"]
    let words := ["check", "a.py", "b.py"]
    let saved := (runIn returnedTree saving).2
    Request.ofWords words = .ok ⟨true, false, some (.check "a.py" (some "b.py"))⟩ ∧
    Request.ofWords saving = .ok ⟨true, false, some (.expand "a.py" (some "b.py"))⟩ ∧
    returnedTree.place (Path.ofText "a.py") ≠ returnedTree.place (Path.ofText "b.py") ∧
    (runIn returnedTree saving).1.ending = .returned 0 ∧
    (runIn returnedTree words).1.ending = .returned 1 ∧
    (runIn saved words).1.ending = .returned 0 ∧
    ∃ source e, (saved.entry "a.py").Holds source ∧ expand "a.py" source = .ok e ∧
      e.success = true ∧ (saved.entry "b.py").Holds e.text := by
  intro saving words saved
  have hcheck : Request.ofWords words = .ok ⟨true, false, some (.check "a.py" (some "b.py"))⟩ := by
    decide +kernel
  have hsaving : Request.ofWords saving = .ok ⟨true, false, some (.expand "a.py" (some "b.py"))⟩ := by
    decide +kernel
  have hne : returnedTree.place (Path.ofText "a.py") ≠ returnedTree.place (Path.ofText "b.py") := by
    intro h
    have hplaces : (.ok ⟨0, ["a.py"]⟩ : Except Entry Place) = .ok ⟨0, ["b.py"]⟩ := h
    exact absurd (Except.ok.inj hplaces) (by decide)
  have hending : (runIn returnedTree saving).1.ending = .returned 0 := by decide +kernel
  have hfresh := (check_decides_freshness hcheck).2 returnedTree saving true false hsaving (by decide)
    hne hending saved rfl rfl
  exact ⟨hcheck, hsaving, hne, hending, by decide +kernel, hfresh,
    ((check_decides_freshness hcheck).1 saved).1 hfresh⟩

end RecordLens
