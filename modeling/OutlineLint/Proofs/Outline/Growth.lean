import OutlineLint.Proofs.Outline.Layout

/-!
# The layout of one more line

How the layout changes when a line is added below.  A section header adds to the
lines of its section, an entry is attached to the scope it stands in, and a
subsection header enters its subsection or is recorded as a repetition.  These
are the changes that a draft goes through, and nothing else changes.

A name that no header bears has nothing in the layout.
-/

namespace OutlineLint.Layout

open OutlineLine

/-! ## Names that occur -/

theorem mem_sectionNames_of_sectionAbove?
    {lines : List Text} {name : Text}
    (isAbove : sectionAbove? lines = some name) :
    name ∈ sectionNames lines := by
  obtain ⟨header, found, rfl⟩ := Option.map_eq_some_iff.mp isAbove
  apply List.mem_map_of_mem
  rw [List.mem_filter]
  exact ⟨List.mem_reverse.mp (List.mem_of_find?_eq_some found), by
    simpa using List.find?_some found⟩

theorem sectionNames_append (first second : List Text) :
    sectionNames (first ++ second) =
      sectionNames first ++ sectionNames second := by
  rw [sectionNames, List.filter_append, List.map_append, sectionNames,
    sectionNames]

/-- A name that stands above some line of a text is a section of the text. -/
theorem mem_sectionNames_append
    {above : List Text} {name : Text}
    (isAbove : sectionAbove? above = some name) (below : List Text) :
    name ∈ sectionNames (above ++ below) := by
  rw [sectionNames_append]
  exact List.mem_append_left _ (mem_sectionNames_of_sectionAbove? isAbove)

theorem names_sections (lines : List Text) :
    (sections lines).map Section.name = (sectionNames lines).eraseDups := by
  rw [sections, List.map_map]
  exact List.map_id _

theorem names_subsections (lines : List Text) (name : Text) :
    (sectionOf lines name).subsections.map Subsection.name =
      (subsectionNames name lines).eraseDups := by
  rw [sectionOf, List.map_map]
  exact List.map_id _

/-- A name that is on no section header has an empty section. -/
theorem sectionOf_eq_empty
    {lines : List Text} {name : Text} (absent : name ∉ sectionNames lines) :
    sectionOf lines name = Section.empty name := by
  have notAbove (above below : List Text) (whole : lines = above ++ below) :
      sectionAbove? above ≠ some name := by
    intro isAbove
    rw [whole] at absent
    exact absent (mem_sectionNames_append isAbove below)
  have noHeaders : subsectionHeaders name lines = [] := by
    apply collect_eq_nil
    intro above line below whole
    rw [if_neg]
    exact fun both => notAbove above _ whole both.2
  have noEntries : entries ⟨name, none⟩ lines = [] := by
    apply collect_eq_nil
    intro above line below whole
    rw [if_neg]
    rintro ⟨_, inScope⟩
    obtain ⟨sectionName, isAbove, same⟩ := Option.map_eq_some_iff.mp inScope
    rw [Scope.mk.injEq] at same
    obtain ⟨rfl, _⟩ := same
    exact notAbove above _ whole isAbove
  have noRepeats : repeatedHeaders name lines = [] := by
    apply collect_eq_nil
    intro above line below whole
    rw [if_neg]
    exact fun all => notAbove above _ whole all.2.1
  have noHeaderLines : headerLines name lines = [] := by
    apply collect_eq_nil
    rintro above line below rfl
    rw [if_neg]
    rintro ⟨isHeader, rfl⟩
    apply absent
    apply List.mem_map_of_mem
    simp [isHeader]
  simp [sectionOf, Section.empty, noHeaders, noEntries, noRepeats,
    noHeaderLines, subsectionNames]

theorem mem_subsectionHeaders_of_mem_headersAbove
    {lines : List Text} {sectionName : Text}
    (isAbove : sectionAbove? lines = some sectionName)
    {header : Item} (member : header ∈ headersAbove lines) :
    header ∈ subsectionHeaders sectionName lines := by
  induction lines using List.reverseRecOn with
  | nil => cases member
  | append_singleton lines line ih =>
      rw [subsectionHeaders, collect_snoc, List.mem_append]
      rw [headersAbove_snoc] at member
      rw [sectionAbove?_snoc] at isAbove
      split at member
      · cases member
      · next notHeader =>
          rw [if_neg notHeader] at isAbove
          split at member
          · next isSubsection =>
              rcases List.mem_cons.mp member with rfl | earlier
              · right
                simp [isSubsection, isAbove]
              · exact Or.inl (ih isAbove earlier)
          · exact Or.inl (ih isAbove member)

theorem subsectionNames_append_subset
    (sectionName : Text) (first second : List Text) :
    subsectionNames sectionName first ⊆
      subsectionNames sectionName (first ++ second) := by
  exact ((collect_prefix_append _ first second).map _).subset

/--
A name that is on no subsection header of the section has no entries there.
-/
theorem entries_eq_nil
    {lines : List Text} {sectionName name : Text}
    (absent : name ∉ subsectionNames sectionName lines) :
    entries ⟨sectionName, some name⟩ lines = [] := by
  apply collect_eq_nil
  rintro above line below rfl
  rw [if_neg]
  rintro ⟨_, inScope⟩
  obtain ⟨other, isAbove, same⟩ := Option.map_eq_some_iff.mp inScope
  rw [Scope.mk.injEq] at same
  obtain ⟨rfl, headName⟩ := same
  obtain ⟨header, isHead, rfl⟩ := Option.map_eq_some_iff.mp headName
  apply absent
  apply subsectionNames_append_subset
  exact List.mem_map_of_mem
    (mem_subsectionHeaders_of_mem_headersAbove isAbove
      (List.mem_of_mem_head? isHead))

/-! ## Runs -/

theorem SameHeader.symm {first second : Item} (same : SameHeader first second) :
    SameHeader second first :=
  ⟨same.1.symm, same.2.symm⟩

theorem SameHeader.trans
    {first second third : Item} (left : SameHeader first second)
    (right : SameHeader second third) :
    SameHeader first third :=
  ⟨left.1.trans right.1, left.2.trans right.2⟩

theorem sameHeader_of_mem_run
    {nearest header : Item} {rest : List Item}
    (member : header ∈ run (nearest :: rest)) :
    SameHeader nearest header := by
  rcases List.mem_cons.mp member with rfl | later
  · exact ⟨rfl, rfl⟩
  · simpa using List.mem_takeWhile_imp later

theorem mem_of_mem_run
    {headers : List Item} {header : Item} (member : header ∈ run headers) :
    header ∈ headers := by
  cases headers with
  | nil => cases member
  | cons nearest rest =>
      rcases List.mem_cons.mp member with rfl | later
      · exact List.mem_cons_self
      · exact List.mem_cons_of_mem _ ((List.takeWhile_sublist _).subset later)

/--
A header that repeats the nearest one continues its run; any other begins one.
-/
theorem run_cons_cons (header nearest : Item) (rest : List Item) :
    run (header :: nearest :: rest) =
      if SameHeader nearest header then header :: run (nearest :: rest)
        else [header] := by
  by_cases same : SameHeader nearest header
  · have agree (other : Item) :
        SameHeader header other ↔ SameHeader nearest other :=
      ⟨same.trans, same.symm.trans⟩
    simp only [run, same, agree, if_true, List.cons.injEq, true_and]
    exact List.takeWhile_cons_of_pos (by simp [SameHeader])
  · have differs : ¬ SameHeader header nearest := fun equal => same equal.symm
    simp [run, same, differs]

theorem openingAbove?_eq_none_iff (above : List Text) :
    openingAbove? above = none ↔ headersAbove above = [] := by
  cases headers : headersAbove above <;> simp [openingAbove?, headers, run]

theorem mem_headersAbove_of_openingAbove?
    {above : List Text} {opening : Item}
    (isOpening : openingAbove? above = some opening) :
    opening ∈ headersAbove above :=
  mem_of_mem_run (List.mem_of_getLast? isOpening)

theorem sameHeader_openingAbove?
    {above : List Text} {opening : Item}
    (isOpening : openingAbove? above = some opening) :
    ∃ nearest ∈ (headersAbove above).head?, SameHeader nearest opening := by
  rw [openingAbove?] at isOpening
  cases headers : headersAbove above with
  | nil => simp [headers, run] at isOpening
  | cons nearest rest =>
      rw [headers] at isOpening
      exact
        ⟨nearest, rfl, sameHeader_of_mem_run (List.mem_of_getLast? isOpening)⟩

/-! ## One more line -/

theorem sectionNames_snoc (lines : List Text) (line : Text) :
    sectionNames (lines ++ [line]) =
      sectionNames lines ++
        if IsSectionHeader line then [line.firstWord] else [] := by
  rw [sectionNames_append]
  by_cases isHeader : IsSectionHeader line <;> simp [sectionNames, isHeader]

section OtherClass

variable {line : Text}

theorem headerLines_snoc_of_not
    (notHeader : ¬ IsSectionHeader line) (name : Text) (lines : List Text) :
    headerLines name (lines ++ [line]) = headerLines name lines := by
  simp [headerLines, collect_snoc, notHeader]

theorem subsectionHeaders_snoc_of_not
    (notSubsection : ¬ IsSubsectionHeader line) (name : Text)
    (lines : List Text) :
    subsectionHeaders name (lines ++ [line]) =
      subsectionHeaders name lines := by
  simp [subsectionHeaders, collect_snoc, notSubsection]

theorem repeatedHeaders_snoc_of_not
    (notSubsection : ¬ IsSubsectionHeader line) (name : Text)
    (lines : List Text) :
    repeatedHeaders name (lines ++ [line]) = repeatedHeaders name lines := by
  simp [repeatedHeaders, collect_snoc, notSubsection]

theorem entries_snoc_of_not
    (notEntry : ¬ IsEntry line) (scope : Scope) (lines : List Text) :
    entries scope (lines ++ [line]) = entries scope lines := by
  simp [entries, collect_snoc, notEntry]

theorem subsectionOf_snoc_of_not
    (notSubsection : ¬ IsSubsectionHeader line) (notEntry : ¬ IsEntry line)
    (name : Text) (lines : List Text) :
    subsectionOf name (lines ++ [line]) = subsectionOf name lines := by
  funext other
  simp only [subsectionOf, subsectionPosition,
    subsectionHeaders_snoc_of_not notSubsection, entries_snoc_of_not notEntry]

end OtherClass

theorem sectionOf_snoc_sectionHeader
    {line : Text} (isHeader : IsSectionHeader line) (lines : List Text)
    (name : Text) :
    sectionOf (lines ++ [line]) name =
      if name = line.firstWord then
        (sectionOf lines name).recordHeaderLine (lines.length + 1 : Nat) line
      else
        sectionOf lines name := by
  have headerLinesEq :
      headerLines name (lines ++ [line]) =
        headerLines name lines ++
          if name = line.firstWord then [⟨(lines.length + 1 : Nat), line⟩]
            else [] := by
    rw [headerLines, collect_snoc, headerLines]
    by_cases same : name = line.firstWord
    · simp [isHeader, same]
    · have other : ¬ line.firstWord = name := fun equal => same equal.symm
      simp [isHeader, same, other]
  have notSubsection := isHeader.not_isSubsectionHeader
  have notEntry := isHeader.not_isEntry
  simp only [sectionOf, subsectionNames,
    subsectionHeaders_snoc_of_not notSubsection,
    repeatedHeaders_snoc_of_not notSubsection, entries_snoc_of_not notEntry,
    subsectionOf_snoc_of_not notSubsection notEntry, headerLinesEq,
    Section.recordHeaderLine]
  split <;> simp

theorem scopeBelow?_eq (lines : List Text) :
    scopeBelow? lines =
      (sectionAbove? lines).map fun sectionName =>
        ⟨sectionName, (headingAbove? lines).map Heading.name⟩ := by
  have sameName :
      (headersAbove lines).head?.map (·.text.firstWord) =
        (headingAbove? lines).map Heading.name := by
    rw [headingAbove?, Option.map_map]
    cases isOpening : openingAbove? lines with
    | none =>
        rw [openingAbove?_eq_none_iff] at isOpening
        rw [isOpening]
        rfl
    | some opening =>
        obtain ⟨nearest, isNearest, same⟩ := sameHeader_openingAbove? isOpening
        rw [Option.mem_def.mp isNearest]
        exact congrArg some same.1
  rw [scopeBelow?, sameName]

/-- The open subsection has been entered by a header in its section. -/
theorem mem_subsectionNames_of_headingAbove?
    {lines : List Text} {sectionName : Text}
    (isAbove : sectionAbove? lines = some sectionName)
    {heading : Heading} (isOpen : headingAbove? lines = some heading) :
    heading.name ∈ subsectionNames sectionName lines := by
  obtain ⟨opening, isOpening, rfl⟩ := Option.map_eq_some_iff.mp isOpen
  obtain ⟨nearest, isNearest, same⟩ := sameHeader_openingAbove? isOpening
  rw [← same.1]
  exact List.mem_map_of_mem
    (mem_subsectionHeaders_of_mem_headersAbove isAbove
      (List.mem_of_mem_head? isNearest))

theorem entries_snoc_entry
    {line : Text} (isEntry : IsEntry line) (scope : Scope) (lines : List Text) :
    entries scope (lines ++ [line]) =
      entries scope lines ++
        if scopeBelow? lines = some scope then [itemOf lines line] else [] := by
  rw [entries, collect_snoc, entries]
  by_cases inScope : scopeBelow? lines = some scope <;> simp [isEntry, inScope]

theorem subsectionOf_snoc_entry
    {line : Text} (isEntry : IsEntry line) (lines : List Text)
    (name other : Text) :
    subsectionOf name (lines ++ [line]) other =
      if scopeBelow? lines = some ⟨name, some other⟩ then
        { subsectionOf name lines other with
          items :=
            (subsectionOf name lines other).items ++ [itemOf lines line] }
      else
        subsectionOf name lines other := by
  have notSubsection : ¬ IsSubsectionHeader line :=
    fun isHeader => isHeader.not_isEntry isEntry
  simp only [subsectionOf, subsectionPosition,
    subsectionHeaders_snoc_of_not notSubsection, entries_snoc_entry isEntry]
  split <;> simp

/-- An entry adds to the items of a section and of its subsections only. -/
theorem sectionOf_snoc_entry
    {line : Text} (isEntry : IsEntry line) (lines : List Text) (name : Text) :
    sectionOf (lines ++ [line]) name =
      { sectionOf lines name with
        subsections :=
          (subsectionNames name lines).eraseDups.map
            (subsectionOf name (lines ++ [line]))
        items := entries ⟨name, none⟩ (lines ++ [line]) } := by
  have notHeader : ¬ IsSectionHeader line :=
    fun isHeader => isHeader.not_isEntry isEntry
  have notSubsection : ¬ IsSubsectionHeader line :=
    fun isHeader => isHeader.not_isEntry isEntry
  simp only [sectionOf, subsectionNames,
    subsectionHeaders_snoc_of_not notSubsection,
    repeatedHeaders_snoc_of_not notSubsection,
    headerLines_snoc_of_not notHeader]

theorem sectionOf_snoc_entry_elsewhere
    {line : Text} (isEntry : IsEntry line) {lines : List Text} {name : Text}
    (notAbove : sectionAbove? lines ≠ some name) :
    sectionOf (lines ++ [line]) name = sectionOf lines name := by
  have notInScope (subsectionName : Option Text) :
      scopeBelow? lines ≠ some ⟨name, subsectionName⟩ := by
    rw [scopeBelow?_eq]
    simp [notAbove]
  have unchanged :
      subsectionOf name (lines ++ [line]) = subsectionOf name lines := by
    funext other
    rw [subsectionOf_snoc_entry isEntry, if_neg (notInScope _)]
  rw [sectionOf_snoc_entry isEntry, unchanged, entries_snoc_entry isEntry,
    if_neg (notInScope none), List.append_nil]
  rfl

/--
An entry is attached to the section above, in the subsection that is open there.
-/
theorem sectionOf_snoc_attached
    {line : Text} (isEntry : IsEntry line) {lines : List Text} {name : Text}
    (isAbove : sectionAbove? lines = some name) :
    sectionOf (lines ++ [line]) name =
      (sectionOf lines name).attach (headingAbove? lines)
        (itemOf lines line) := by
  have scopeEq (scope : Scope) :
      scopeBelow? lines = some scope ↔
        scope = ⟨name, (headingAbove? lines).map Heading.name⟩ := by
    rw [scopeBelow?_eq, isAbove, Option.map_some, Option.some.injEq, eq_comm]
  rw [sectionOf_snoc_entry isEntry, entries_snoc_entry isEntry]
  cases isOpen : headingAbove? lines with
  | none =>
      have unchanged :
          subsectionOf name (lines ++ [line]) = subsectionOf name lines := by
        funext other
        rw [subsectionOf_snoc_entry isEntry, if_neg (by simp [scopeEq, isOpen])]
      rw [unchanged, if_pos (by simp [scopeEq, isOpen])]
      rfl
  | some heading =>
      have known := mem_subsectionNames_of_headingAbove? isAbove isOpen
      have attached :=
        alter_map_eraseDups heading.name
          (Subsection.empty heading.name heading.header.position)
          (fun part => { part with items := part.items ++ [itemOf lines line] })
          (subsectionNames name lines) (subsectionOf name lines)
          (subsectionOf name (lines ++ [line])) (fun _ => rfl)
          (fun other different => by
            rw [subsectionOf_snoc_entry isEntry,
              if_neg (by simp [scopeEq, isOpen, different])])
          (fun _ => by
            rw [subsectionOf_snoc_entry isEntry,
              if_pos (by simp [scopeEq, isOpen])])
          (fun unknown => absurd known unknown)
      rw [eraseDups_snoc, if_pos known] at attached
      rw [← attached, if_neg (by simp [scopeEq, isOpen]), List.append_nil]
      rfl

theorem itemOf_firstWord (lines : List Text) (line : Text) :
    (itemOf lines line).text.firstWord = line.firstWord :=
  Text.firstWord_trim line

theorem repeatsAbove_iff
    {lines : List Text} {opening : Item}
    (isOpening : openingAbove? lines = some opening) (header : Item) :
    RepeatsAbove lines header ↔ SameHeader opening header := by
  obtain ⟨nearest, isNearest, same⟩ := sameHeader_openingAbove? isOpening
  constructor
  · rintro ⟨other, isOther, repeats⟩
    cases Option.mem_unique isNearest isOther
    exact same.symm.trans repeats
  · intro repeats
    exact ⟨nearest, isNearest, same.trans repeats⟩

theorem subsectionHeaders_snoc
    {line : Text} (isHeader : IsSubsectionHeader line) (name : Text)
    (lines : List Text) :
    subsectionHeaders name (lines ++ [line]) =
      subsectionHeaders name lines ++
        if sectionAbove? lines = some name then [itemOf lines line]
          else [] := by
  rw [subsectionHeaders, collect_snoc, subsectionHeaders]
  by_cases isAbove : sectionAbove? lines = some name <;>
    simp [isHeader, isAbove]

theorem repeatedHeaders_snoc
    {line : Text} (isHeader : IsSubsectionHeader line) (name : Text)
    (lines : List Text) :
    repeatedHeaders name (lines ++ [line]) =
      repeatedHeaders name lines ++
        if sectionAbove? lines = some name ∧
            RepeatsAbove lines (itemOf lines line) then
          ((openingAbove? lines).map fun opening =>
            ⟨itemOf lines line, opening.position.row⟩).toList
        else
          [] := by
  rw [repeatedHeaders, collect_snoc, repeatedHeaders]
  simp only [isHeader, true_and]
  split <;> rfl

theorem sectionOf_snoc_subsectionHeader
    {line : Text} (isHeader : IsSubsectionHeader line) (lines : List Text)
    (name : Text) :
    sectionOf (lines ++ [line]) name =
      { sectionOf lines name with
        subsections :=
          (subsectionNames name (lines ++ [line])).eraseDups.map
            (subsectionOf name (lines ++ [line]))
        repeatedHeaders := repeatedHeaders name (lines ++ [line]) } := by
  have notHeader : ¬ IsSectionHeader line :=
    fun other => other.not_isSubsectionHeader isHeader
  simp only [sectionOf, headerLines_snoc_of_not notHeader,
    entries_snoc_of_not isHeader.not_isEntry]

theorem isSome_find?_subsectionHeaders
    {lines : List Text} {sectionName name : Text}
    (known : name ∈ subsectionNames sectionName lines) :
    ((subsectionHeaders sectionName lines).find?
      (·.text.firstWord = name)).isSome = true := by
  obtain ⟨header, member, named⟩ := List.mem_map.mp known
  rw [List.find?_isSome]
  exact ⟨header, member, by simpa using named⟩

/-- The first header of a name keeps its place when another header is read. -/
theorem subsectionOf_snoc_of_known
    {line : Text} (isHeader : IsSubsectionHeader line) (lines : List Text)
    {name other : Text} (known : other ∈ subsectionNames name lines) :
    subsectionOf name (lines ++ [line]) other =
      subsectionOf name lines other := by
  have found := isSome_find?_subsectionHeaders known
  have positionEq :
      subsectionPosition name other (lines ++ [line]) =
        subsectionPosition name other lines := by
    rw [subsectionPosition, subsectionHeaders_snoc isHeader, List.find?_append,
      Option.or_of_isSome found, subsectionPosition]
  simp only [subsectionOf, entries_snoc_of_not isHeader.not_isEntry, positionEq]

theorem subsectionOf_snoc_of_other
    {line : Text} (isHeader : IsSubsectionHeader line) (lines : List Text)
    {name other : Text}
    (different : sectionAbove? lines ≠ some name ∨ other ≠ line.firstWord) :
    subsectionOf name (lines ++ [line]) other =
      subsectionOf name lines other := by
  have positionEq :
      subsectionPosition name other (lines ++ [line]) =
        subsectionPosition name other lines := by
    rw [subsectionPosition, subsectionHeaders_snoc isHeader, subsectionPosition]
    rcases different with notAbove | otherName
    · rw [if_neg notAbove, List.append_nil]
    · split
      · have notFound :
            [itemOf lines line].find? (·.text.firstWord = other) = none := by
          simpa [itemOf_firstWord] using fun equal => otherName equal.symm
        rw [List.find?_append, notFound, Option.or_none]
      · rw [List.append_nil]
  simp only [subsectionOf, entries_snoc_of_not isHeader.not_isEntry, positionEq]

/-- A header that repeats the one above is recorded and opens nothing. -/
theorem sectionOf_snoc_repeated
    {line : Text} (isHeader : IsSubsectionHeader line) {lines : List Text}
    {name : Text} (isAbove : sectionAbove? lines = some name)
    {opening : Item} (isOpening : openingAbove? lines = some opening)
    (repeats : SameHeader opening (itemOf lines line)) :
    sectionOf (lines ++ [line]) name =
      (sectionOf lines name).recordRepeat
        (itemOf lines line) opening.position.row := by
  have isOpen :
      headingAbove? lines = some ⟨opening.text.firstWord, opening⟩ := by
    rw [headingAbove?, isOpening]
    rfl
  have known : line.firstWord ∈ subsectionNames name lines := by
    rw [← itemOf_firstWord lines line, ← repeats.1]
    exact mem_subsectionNames_of_headingAbove? isAbove isOpen
  have namesEq :
      (subsectionNames name (lines ++ [line])).eraseDups =
        (subsectionNames name lines).eraseDups := by
    rw [subsectionNames, subsectionHeaders_snoc isHeader, if_pos isAbove,
      List.map_append, List.map_singleton, itemOf_firstWord, eraseDups_snoc]
    exact if_pos known
  rw [sectionOf_snoc_subsectionHeader isHeader, namesEq,
    repeatedHeaders_snoc isHeader,
    if_pos ⟨isAbove, (repeatsAbove_iff isOpening _).mpr repeats⟩, isOpening]
  have subsectionsEq :
      (subsectionNames name lines).eraseDups.map
          (subsectionOf name (lines ++ [line])) =
        (subsectionNames name lines).eraseDups.map
          (subsectionOf name lines) := by
    apply List.map_congr_left
    intro other member
    exact subsectionOf_snoc_of_known isHeader lines
      (List.mem_eraseDups.mp member)
  rw [subsectionsEq]
  rfl

/-- Any other header enters the subsection of its name. -/
theorem sectionOf_snoc_entered
    {line : Text} (isHeader : IsSubsectionHeader line) {lines : List Text}
    {name : Text} (isAbove : sectionAbove? lines = some name)
    (differs : ¬ RepeatsAbove lines (itemOf lines line)) :
    sectionOf (lines ++ [line]) name =
      (sectionOf lines name).enter ⟨line.firstWord, itemOf lines line⟩ := by
  have namesEq :
      subsectionNames name (lines ++ [line]) =
        subsectionNames name lines ++ [line.firstWord] := by
    rw [subsectionNames, subsectionHeaders_snoc isHeader, if_pos isAbove,
      List.map_append, List.map_singleton, itemOf_firstWord, subsectionNames]
  have entered :=
    alter_map_eraseDups line.firstWord
      (Subsection.empty line.firstWord (itemOf lines line).position) id
      (subsectionNames name lines) (subsectionOf name lines)
      (subsectionOf name (lines ++ [line])) (fun _ => rfl)
      (fun other different =>
        subsectionOf_snoc_of_other isHeader lines (Or.inr different))
      (fun known => subsectionOf_snoc_of_known isHeader lines known)
      (fun unknown => by
        have notFound :
            (subsectionHeaders name lines).find?
              (·.text.firstWord = line.firstWord) = none := by
          rw [List.find?_eq_none]
          intro header member equal
          exact unknown
            (List.mem_map.mpr ⟨header, member, by simpa using equal⟩)
        have positionEq :
            subsectionPosition name line.firstWord (lines ++ [line]) =
              (itemOf lines line).position := by
          rw [subsectionPosition, subsectionHeaders_snoc isHeader,
            if_pos isAbove, List.find?_append, notFound]
          simp [itemOf_firstWord]
        rw [subsectionOf, positionEq, entries_snoc_of_not isHeader.not_isEntry,
          entries_eq_nil unknown]
        rfl)
  rw [sectionOf_snoc_subsectionHeader isHeader, namesEq, ← entered,
    repeatedHeaders_snoc isHeader, if_neg (fun both => differs both.2),
    List.append_nil]
  rfl

theorem sectionOf_snoc_elsewhere
    {line : Text} (isHeader : IsSubsectionHeader line) {lines : List Text}
    {name : Text} (notAbove : sectionAbove? lines ≠ some name) :
    sectionOf (lines ++ [line]) name = sectionOf lines name := by
  have namesEq :
      subsectionNames name (lines ++ [line]) = subsectionNames name lines := by
    rw [subsectionNames, subsectionHeaders_snoc isHeader, if_neg notAbove,
      List.append_nil, subsectionNames]
  have subsectionsEq :
      subsectionOf name (lines ++ [line]) = subsectionOf name lines := by
    funext other
    exact subsectionOf_snoc_of_other isHeader lines (Or.inl notAbove)
  rw [sectionOf_snoc_subsectionHeader isHeader, namesEq, subsectionsEq,
    repeatedHeaders_snoc isHeader, if_neg (fun both => notAbove both.1),
    List.append_nil]
  rfl

/-! ## The place after one more line -/

theorem openingAbove?_snoc_subsectionHeader
    {line : Text} (isHeader : IsSubsectionHeader line) (lines : List Text) :
    openingAbove? (lines ++ [line]) =
      if RepeatsAbove lines (itemOf lines line) then
        openingAbove? lines
      else
        some (itemOf lines line) := by
  have notHeader : ¬ IsSectionHeader line :=
    fun other => other.not_isSubsectionHeader isHeader
  rw [openingAbove?, headersAbove_snoc, if_neg notHeader, if_pos isHeader]
  cases headers : headersAbove lines with
  | nil => simp [RepeatsAbove, headers, run]
  | cons nearest rest =>
      rw [run_cons_cons]
      by_cases same : SameHeader nearest (itemOf lines line)
      · have repeats : RepeatsAbove lines (itemOf lines line) :=
          ⟨nearest, by simp [headers], same⟩
        rw [if_pos same, if_pos repeats, openingAbove?, headers]
        simp [run, List.getLast?_cons]
      · have differs : ¬ RepeatsAbove lines (itemOf lines line) := by
          rintro ⟨other, isOther, repeats⟩
          rw [headers] at isOther
          cases isOther
          exact same repeats
        rw [if_neg same, if_neg differs]
        rfl

theorem openingAbove?_snoc_of_plain
    {line : Text} (notHeader : ¬ IsSectionHeader line)
    (notSubsection : ¬ IsSubsectionHeader line) (lines : List Text) :
    openingAbove? (lines ++ [line]) = openingAbove? lines := by
  rw [openingAbove?, headersAbove_snoc, if_neg notHeader, if_neg notSubsection,
    openingAbove?]

theorem openingAbove?_snoc_sectionHeader
    {line : Text} (isHeader : IsSectionHeader line) (lines : List Text) :
    openingAbove? (lines ++ [line]) = none := by
  rw [openingAbove?, headersAbove_snoc, if_pos isHeader]
  rfl

end OutlineLint.Layout
