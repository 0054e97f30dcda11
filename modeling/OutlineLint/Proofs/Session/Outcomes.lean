import OutlineLint.Proofs.FileTree.Holding
import OutlineLint.Proofs.Session.Summaries
import OutlineLint.Proofs.Text.Utf8

/-!
# What becomes of a file

What the tree holds at the path of a word decides the verdict on it.  Nothing
there is a failure, and so are a directory and bytes that are no text; no
failure comes with findings.  All other bytes are those of one text, and the
verdict has the findings of that text.

This is so as long as the path and the names in it are short enough for the file
system.  Names may be short and the path still be too long; such a path is
refused before it is known to lead nowhere.
-/

namespace OutlineLint

/-- The verdict on what the tree holds at a route. -/
inductive Outcome (tree : FileTree) (route : Route) : Verdict → Prop where
  | missing
      (nothing : ∀ node, ¬ tree.Holds route node) :
      Outcome tree route
        ⟨route.shown, [], some ("File not found: ".toList ++ route.shown)⟩
  | directory
      (isDirectory : tree.Holds route .directory) :
      Outcome tree route
        ⟨route.shown, [],
          some ("Could not read ".toList ++ route.shown ++
            ": [Errno 21] Is a directory: ".toList
              ++ route.path.quoted)⟩
  /--
  The bytes are no text.  The fault is where the longest text
  at their beginning ends.
  -/
  | illFormed {contents : Bytes} {fault : Utf8.Fault}
      (isFile : tree.Holds route (.file contents))
      (noText : ∀ text, Utf8.encode text ≠ contents)
      (faulty : Utf8.decode contents = .error fault)
      (longest : Utf8.LongestText contents fault.start) :
      Outcome tree route
        ⟨route.shown, [],
          some ("Could not read ".toList ++ route.shown ++ ": ".toList ++
            fault.message)⟩
  | read {contents : Bytes} {text : Text}
      (isFile : tree.Holds route (.file contents))
      (isText : ∀ other, Utf8.encode other = contents ↔ other = text) :
      Outcome tree route ⟨route.shown, Check.findings route.shown text, none⟩

theorem exists_outcome (tree : FileTree) (route : Route) :
    ∃ verdict, Outcome tree route verdict := by
  by_cases something : ∃ node, tree.Holds route node
  · obtain ⟨node, held⟩ := something
    cases node with
    | directory => exact ⟨_, .directory held⟩
    | file contents =>
        cases decoding : Utf8.decode contents with
        | error fault =>
            have noText (text : Text) : Utf8.encode text ≠ contents := by
              intro isText
              rw [(Utf8.decode_eq_ok_iff contents text).mpr isText] at decoding
              contradiction
            exact ⟨_,
              .illFormed held noText decoding
                (Utf8.longestText_of_decode_error decoding)⟩
        | ok text =>
            rw [Utf8.decode_eq_ok_iff] at decoding
            subst decoding
            exact ⟨_, .read held fun other =>
              ⟨Utf8.encode_injective, congrArg Utf8.encode⟩⟩
  · exact ⟨_, .missing (not_exists.mp something)⟩

namespace Session

/-- The verdict on a word is that on what the tree holds at its path. -/
theorem inspect_of_outcome
    {session : Session} {word : Bytes} (noNull : Ascii.null ∉ word)
    (plain : Route.upward ∉ session.directory)
    (short : ∀ name ∈ Route.resolve session.directory word,
      name.length ≤ FileTree.nameLimit)
    (shortPath : (session.directory.pathOf word).length ≤ FileTree.pathLimit)
    {verdict : Verdict}
    (outcome :
      Outcome session.tree (Route.resolve session.directory word) verdict) :
    (session.inspect word).verdict = .ok verdict := by
  have plainRoute := Route.upward_not_mem_resolve plain word
  have search (node : Node) :
      session.lookUp word = .ok node ↔
        session.tree.Holds (Route.resolve session.directory word) node :=
    FileTree.status_ofRoute_eq_ok_iff session.tree session.directory plainRoute
      short shortPath node
  rw [session.inspect_eq noNull]
  cases outcome with
  | missing nothing =>
      have absent :
          session.lookUp word = .error .missing ∨
            session.lookUp word = .error .notDirectory :=
        FileTree.status_ofRoute_eq_error_of_not_holds session.directory
          plainRoute short shortPath nothing
      rcases absent with missing | notDirectory
      · rw [missing]
        rfl
      · rw [notDirectory]
        rfl
  | directory isDirectory =>
      rw [(search _).mpr isDirectory, Route.shown, ← unreadable_directory]
      rfl
  | illFormed isFile _ faulty _ =>
      rw [(search _).mpr isFile, inspectEntry, inspectContents, faulty]
      rfl
  | read isFile isText =>
      rw [(search _).mpr isFile, inspectEntry]
      exact verdict_inspectContents
        ((Utf8.decode_eq_ok_iff _ _).mpr ((isText _).mpr rfl)) _

theorem inspect_of_longPath
    {session : Session} {word : Bytes} (noNull : Ascii.null ∉ word)
    (plain : Route.upward ∉ session.directory)
    (longPath :
      FileTree.pathLimit < (session.directory.pathOf word).length) :
    (session.inspect word).verdict =
      .error (.access ⟨.nameTooLong, session.directory.pathOf word⟩) := by
  have refused :=
    (session.lookUp_eq_nameTooLong_iff plain word).mpr (Or.inl longPath)
  rw [session.inspect_eq noNull, refused]
  rfl

/--
A word whose path is short enough has exactly one verdict, the one on what the
tree holds there.  A path that is too long breaks the run off.
-/
theorem inspect_outcome
    (session : Session) {word : Bytes} (noNull : Ascii.null ∉ word)
    (plain : Route.upward ∉ session.directory)
    (short : ∀ name ∈ Route.resolve session.directory word,
      name.length ≤ FileTree.nameLimit) :
    ((session.directory.pathOf word).length ≤ FileTree.pathLimit →
        ∃ verdict, (session.inspect word).verdict = .ok verdict ∧
          ∀ other,
              Outcome session.tree
                  (Route.resolve session.directory word) other ↔
            other = verdict) ∧
      (FileTree.pathLimit < (session.directory.pathOf word).length →
        (session.inspect word).verdict =
          .error (.access ⟨.nameTooLong, session.directory.pathOf word⟩)) := by
  constructor
  · intro shortPath
    obtain ⟨verdict, outcome⟩ :=
      exists_outcome session.tree (Route.resolve session.directory word)
    have inspected := inspect_of_outcome noNull plain short shortPath outcome
    refine ⟨verdict, inspected, fun other => ⟨fun otherOutcome => ?_, ?_⟩⟩
    · have otherInspected :=
        inspect_of_outcome noNull plain short shortPath otherOutcome
      rw [inspected, Except.ok.injEq] at otherInspected
      exact otherInspected.symm
    · rintro rfl
      exact outcome
  · exact inspect_of_longPath noNull plain

/-! ### Bytes that are no text, and a deep path -/

/--
The file holds the bytes of a text of two characters, and
behind them a surrogate.
-/
def illFormedMenu : Session :=
  { menu with
    tree := FileTree.empty.plant (work ++ [menuWord])
      (.file [0x74, 0xC3, 0xA9, 0xED, 0xA0, 0x80]) }

/-- What is said about that file. -/
def illFormedVerdict : Verdict :=
  ⟨"/w/menu".toList, [],
    some ("Could not read /w/menu: 'utf-8' codec can't decode byte 0xed ".toList
      ++ "in position 3: invalid continuation byte".toList)⟩

/-- The text before the surrogate has three bytes. -/
theorem illFormedMenu_outcome :
    Ascii.null ∉ menuWord ∧ Route.upward ∉ illFormedMenu.directory ∧
      (∀ name ∈ Route.resolve illFormedMenu.directory menuWord,
        name.length ≤ FileTree.nameLimit) ∧
      (illFormedMenu.directory.pathOf menuWord).length ≤ FileTree.pathLimit ∧
      Outcome illFormedMenu.tree (work ++ [menuWord]) illFormedVerdict := by
  have noNull : Ascii.null ∉ menuWord := by
    decide +kernel
  have plain : Route.upward ∉ illFormedMenu.directory := by
    decide +kernel
  have short : ∀ name ∈ Route.resolve illFormedMenu.directory menuWord,
      name.length ≤ FileTree.nameLimit := by
    decide +kernel
  have shortPath :
      (illFormedMenu.directory.pathOf menuWord).length ≤
        FileTree.pathLimit := by
    decide +kernel
  obtain ⟨verdict, inspected, outcomes⟩ :=
    (inspect_outcome illFormedMenu noNull plain short).1 shortPath
  have resolved :
      Route.resolve illFormedMenu.directory menuWord = work ++ [menuWord] := by
    decide +kernel
  have said :
      (illFormedMenu.inspect menuWord).verdict = .ok illFormedVerdict := by
    decide +kernel
  rw [said, Except.ok.injEq] at inspected
  rw [resolved] at outcomes
  exact ⟨noNull, plain, short, shortPath, (outcomes _).mpr inspected⟩

/-- A name of 240 bytes, which is short enough. -/
def deepName : Bytes :=
  List.replicate 240 0x61

/-- A path with twenty names. -/
def deepWord : Bytes :=
  List.intercalate [Ascii.slash] (List.replicate 20 deepName)

theorem resolve_deepWord :
    Route.resolve menu.directory deepWord =
      work ++ List.replicate 20 deepName := by
  have noSlash : ∀ name ∈ List.replicate 20 deepName, Ascii.slash ∉ name := by
    decide +kernel
  rw [Route.resolve, deepWord,
    List.splitOn_intercalate Ascii.slash noSlash (by decide)]
  decide +kernel

theorem pathLimit_lt_deepWord :
    FileTree.pathLimit < (menu.directory.pathOf deepWord).length := by
  rw [Route.pathOf, resolve_deepWord, Route.path, List.length_cons,
    List.intercalate, List.length_flatten]
  decide +kernel

/-- A path can be too long though all names in it are short enough. -/
theorem not_every_short_word_judged :
    ¬ ∀ (session : Session) (word : Bytes), Ascii.null ∉ word →
      Route.upward ∉ session.directory →
        (∀ name ∈ Route.resolve session.directory word,
          name.length ≤ FileTree.nameLimit) →
          ∃ verdict, (session.inspect word).verdict = .ok verdict ∧
            Outcome session.tree (Route.resolve session.directory word)
              verdict := by
  intro always
  have noNull : Ascii.null ∉ deepWord := by
    rw [deepWord, List.intercalate, List.mem_flatten]
    decide +kernel
  have plain : Route.upward ∉ menu.directory := by
    decide +kernel
  have short : ∀ name ∈ Route.resolve menu.directory deepWord,
      name.length ≤ FileTree.nameLimit := by
    rw [resolve_deepWord]
    decide +kernel
  obtain ⟨verdict, judged, -⟩ := always menu deepWord noNull plain short
  rw [inspect_of_longPath noNull plain pathLimit_lt_deepWord] at judged
  exact absurd judged nofun

end Session

end OutlineLint
