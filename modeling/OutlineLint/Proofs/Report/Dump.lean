import OutlineLint.Proofs.Check.Messages
import OutlineLint.Proofs.Text.Letters
import OutlineLint.Report

/-!
# What is written of a report

A report whose paths are texts is written as a whole.  With any other path among
them the writing stops, and what has been written is the beginning of the report
up to the first such path.  The path would have been next.
-/

namespace OutlineLint.Report

/-! ## Paths in quotes -/

theorem isCharacter_escapedLetter_iff (letter : Letter) :
    (∀ other ∈ escapedLetter letter, other.isCharacter = true) ↔
      letter.isCharacter = true := by
  cases letter with
  | character value =>
      exact iff_of_true (List.forall_mem_map.mpr fun _ _ => rfl) rfl
  | stray byte => exact List.forall_mem_singleton

theorem pathFault?_eq_none_iff (path : Bytes) :
    pathFault? path = none ↔ path.IsText := by
  rw [pathFault?, encodingFault?_eq_none_iff, Bytes.isText_iff_letters,
    quotedPath]
  simp only [List.cons_append, List.forall_mem_cons, List.forall_mem_append,
    List.forall_mem_flatMap, isCharacter_escapedLetter_iff]
  exact ⟨fun all => all.2.1, fun all => ⟨rfl, all, rfl, nofun⟩⟩

/-! ## The beginning of a report -/

theorem intercalate_append_cons
    (separator : Text) (before : List Text) (part : Text) (after : List Text) :
    separator.intercalate (before ++ part :: after) =
      before.flatMap (· ++ separator)
        ++ separator.intercalate (part :: after) := by
  induction before with
  | nil => rfl
  | cons first rest ih =>
      obtain ⟨next, later, isNext⟩ :=
        List.exists_cons_of_ne_nil (l := rest ++ part :: after) (by simp)
      rw [isNext] at ih
      rw [List.cons_append, isNext, List.intercalate_cons_cons, ih,
        List.flatMap_cons, List.append_assoc (first ++ separator)]

theorem prefix_intercalate_cons
    (separator part : Text) (after : List Text) :
    part <+: separator.intercalate (part :: after) := by
  cases after with
  | nil => simpa only [List.intercalate_singleton] using List.prefix_rfl
  | cons next later =>
      rw [List.intercalate_cons_cons, List.append_assoc]
      exact List.prefix_append _ _

/-- A block that has been begun goes on with the beginning of its next part. -/
theorem beginBlock_prefix
    {front part : Text} (isFront : front <+: part) (level : Nat)
    (opener closer : Char) (before after : List Text) :
    Json.beginBlock level opener before ++ front <+:
      Json.writeBlock level opener closer (before ++ part :: after) := by
  have whole :
      Json.writeBlock level opener closer (before ++ part :: after) =
        Json.beginBlock level opener before
          ++ ((',' :: Json.newLine (level + 1)).intercalate (part :: after)
            ++ (Json.newLine level ++ [closer])) := by
    rw [Json.writeBlock, if_neg (by simp), intercalate_append_cons,
      Json.beginBlock]
    simp only [List.append_assoc]
  rw [whole, List.prefix_append_right_inj]
  exact (isFront.trans (prefix_intercalate_cons _ part after)).trans
    (List.prefix_append _ _)

theorem writeElements_append (level : Nat) (before after : List Json) :
    Json.writeElements level (before ++ after) =
      Json.writeElements level before ++ Json.writeElements level after := by
  induction before with
  | nil => rfl
  | cons entry rest ih =>
      rw [List.cons_append, Json.writeElements, ih, Json.writeElements,
        List.cons_append]

/-- A report goes on with the path of the next file. -/
theorem beginning_prefix
    (valid : Bool) (before after : List Json) (path : Text)
    (members : List (Text × Json)) :
    beginning valid before ++ Json.writeText path <+:
      Json.write 0
        (ofEntries valid
          (before ++ .object (("path".toList, .text path) :: members)
            :: after)) := by
  have inEntry :
      Json.beginBlock 2 '{' []
          ++ (Json.writeText "path".toList ++ ": ".toList
            ++ Json.writeText path) <+:
        Json.write 2 (.object (("path".toList, .text path) :: members)) := by
    rw [Json.write, Json.writeMembers, Json.write]
    exact beginBlock_prefix List.prefix_rfl 2 '{' '}' [] _
  have inFiles :
      Json.beginBlock 1 '[' (Json.writeElements 2 before)
          ++ (Json.beginBlock 2 '{' []
            ++ (Json.writeText "path".toList ++ ": ".toList
              ++ Json.writeText path)) <+:
        Json.write 1
          (.list
            (before ++ .object (("path".toList, .text path) :: members)
              :: after)) := by
    rw [Json.write, writeElements_append, Json.writeElements]
    exact beginBlock_prefix inEntry 1 '[' ']' _ _
  have inMember := (List.prefix_append_right_inj
    (Json.writeText "files".toList ++ ": ".toList)).mpr inFiles
  have inReport := beginBlock_prefix inMember 0 '{' '}'
    (Json.writeMembers 1
      [("tool".toList, .text toolName), ("valid".toList, .boolean valid)]) []
  rw [beginning, ofEntries, Json.write, Json.writeMembers, Json.writeMembers,
    Json.writeMembers, Json.writeMembers]
  simp only [List.append_assoc] at inReport ⊢
  exact inReport

/-! ## What is written -/

/--
What is written of a report: all, or what comes before a path that is no text.
-/
inductive Dumped (paths : List Bytes) (verdicts : List Verdict) :
    Dump → Prop where
  | whole {text : Text} (texts : ∀ path ∈ paths, path.IsText)
      (isText : text? verdicts = some text) :
      Dumped paths verdicts ⟨text, none⟩
  | upTo {earlier later : List Bytes} {path : Bytes} {before : List Json}
      {fault : EncodingFault}
      (split : paths = earlier ++ path :: later)
      (texts : ∀ other ∈ earlier, other.IsText) (noText : ¬ path.IsText)
      (isFault : pathFault? path = some fault)
      (entries :
        (verdicts.take earlier.length).map verdictEntry? = before.map some) :
      Dumped paths verdicts
        ⟨beginning (verdicts.all (·.ok)) before, some fault⟩

theorem dump?_dumped
    {paths : List Bytes} {verdicts : List Verdict} {dump : Dump}
    (isDump : dump? paths verdicts = some dump) :
    Dumped paths verdicts dump := by
  rw [dump?, Option.map_eq_some_iff] at isDump
  obtain ⟨entries, areEntries, rfl⟩ := isDump
  dsimp only
  cases isFault : paths.findSome? pathFault? with
  | none =>
      rw [List.findSome?_eq_none_iff] at isFault
      refine .whole (fun path member => ?_) ?_
      · exact (pathFault?_eq_none_iff path).mp (isFault path member)
      · rw [text?, ofVerdicts?, areEntries]
        rfl
  | some fault =>
      obtain ⟨earlier, path, later, rfl, found, before⟩ :=
        List.findSome?_eq_some_iff.mp isFault
      have written :
          (earlier ++ path :: later).takeWhile
              (fun other => (pathFault? other).isNone) = earlier := by
        rw [List.takeWhile_append_of_pos, List.takeWhile_cons_of_neg,
          List.append_nil]
        · simp [found]
        · exact fun other member => Option.isNone_iff_eq_none.mpr
            (before other member)
      have noText : ¬ path.IsText := by
        intro isText
        rw [(pathFault?_eq_none_iff path).mpr isText] at found
        cases found
      rw [written]
      refine .upTo rfl (fun other member => ?_) noText found ?_
      · exact (pathFault?_eq_none_iff other).mp (before other member)
      · rw [List.map_take, map_eq_of_mapM_eq_some areEntries, ← List.map_take]

/-- Only a report that has a text is begun. -/
theorem exists_text_of_dump?
    {paths : List Bytes} {verdicts : List Verdict} {dump : Dump}
    (isDump : dump? paths verdicts = some dump) :
    ∃ text : Text, text? verdicts = some text := by
  rw [dump?, Option.map_eq_some_iff] at isDump
  obtain ⟨entries, areEntries, -⟩ := isDump
  rw [text?, ofVerdicts?, areEntries]
  exact ⟨_, rfl⟩

theorem exists_members_of_verdictEntry?
    {verdict : Verdict} {entry : Json}
    (isEntry : verdictEntry? verdict = some entry) :
    ∃ members : List (Text × Json),
      entry = .object (("path".toList, .text verdict.path) :: members) := by
  rw [Report.verdictEntry?, Option.map_eq_some_iff] at isEntry
  obtain ⟨entries, -, rfl⟩ := isEntry
  exact ⟨_, rfl⟩

/-- After what is written comes the path that is no text, as it is shown. -/
theorem beginning_prefix_text
    {earlier later : List Bytes} {path : Bytes} {verdicts : List Verdict}
    {before : List Json} {text : Text}
    (samePaths :
      verdicts.map Verdict.path = (earlier ++ path :: later).map Bytes.shown)
    (areBefore :
      (verdicts.take earlier.length).map verdictEntry? = before.map some)
    (isText : text? verdicts = some text) :
    beginning (verdicts.all (·.ok)) before ++ Json.writeText path.shown <+:
      text := by
  rw [text?, ofVerdicts?, Option.map_map, Option.map_eq_some_iff] at isText
  obtain ⟨entries, areEntries, rfl⟩ := isText
  have listed := map_eq_of_mapM_eq_some areEntries
  rw [List.map_append, List.map_eq_append_iff] at samePaths
  obtain ⟨first, others, rfl, firstPaths, otherPaths⟩ := samePaths
  obtain ⟨verdict, last, rfl, isPath, -⟩ := List.map_eq_cons_iff.mp otherPaths
  have sameLength : first.length = earlier.length := by
    rw [← List.length_map Verdict.path, firstPaths, List.length_map]
  rw [List.map_append, List.append_eq_map_iff] at listed
  obtain ⟨front, rest, rfl, areFront, areRest⟩ := listed
  obtain ⟨entry, after, rfl, isEntry, -⟩ := List.map_eq_cons_iff.mp areRest
  obtain ⟨members, rfl⟩ := exists_members_of_verdictEntry? isEntry.symm
  rw [← sameLength, List.take_left, ← areFront] at areBefore
  have same : front = before :=
    List.map_inj_right (fun _ _ => Option.some.inj) |>.mp areBefore
  subst same
  rw [← isPath]
  exact beginning_prefix _ _ _ _ _

end OutlineLint.Report
