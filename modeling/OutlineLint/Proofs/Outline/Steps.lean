import OutlineLint.Proofs.Outline.Extension
import OutlineLint.Proofs.Outline.Items

/-!
# Steps of a draft

A draft is made by steps: opening a section, opening a subsection of the current
section, and attaching an item to the current scope.  A step that fails leaves
the draft as it is, and the steps go on.

`Effect` says once what a step can do.  It names the place where the draft goes
on and the change of the section there.  From it follows what every sequence of
steps makes of the empty draft: names stay distinct, the place is always one
that the draft has, every attached item is held once, and all that a step does
is to extend the current section.
-/

namespace OutlineLint

namespace Named

variable {Entry : Type} [Named Entry] {wanted : Text} {fresh : Entry}
  {change : Entry → Entry}

theorem mem_map_name_alter
    (wanted : Text) (fresh : Entry) (change : Entry → Entry)
    (entries : List Entry)
    (keeps : ∀ entry : Entry, name (change entry) = name entry)
    (freshName : name fresh = wanted) :
    wanted ∈ (alter wanted fresh change entries).map name := by
  rw [map_name_alter wanted fresh change entries keeps freshName]
  split
  · assumption
  · exact List.mem_append_right _ List.mem_cons_self

/-- Changing the entry of a name keeps the names distinct. -/
theorem nodup_alter
    {entries : List Entry}
    (keeps : ∀ entry : Entry, name (change entry) = name entry)
    (freshName : name fresh = wanted) (distinct : (entries.map name).Nodup) :
    ((alter wanted fresh change entries).map name).Nodup := by
  rw [map_name_alter wanted fresh change entries keeps freshName]
  split
  · exact distinct
  · next new =>
      rw [← List.concat_eq_append]
      exact distinct.concat new

/-- What holds of the entries, and is kept by the change, holds after it. -/
theorem forall_mem_alter
    {property : Entry → Prop} {entries : List Entry}
    (holds : ∀ entry ∈ entries, property entry)
    (kept : ∀ entry : Entry, property entry → property (change entry))
    (made : property (change fresh)) :
    ∀ entry ∈ alter wanted fresh change entries, property entry := by
  induction entries with
  | nil => simpa [alter] using made
  | cons first rest ih =>
      rw [List.forall_mem_cons] at holds
      rw [alter]
      split
      · exact List.forall_mem_cons.mpr ⟨kept first holds.1, holds.2⟩
      · exact List.forall_mem_cons.mpr ⟨holds.1, ih holds.2⟩

theorem mem_and_name_of_find?
    {entries : List Entry} {entry : Entry}
    (found : find? wanted entries = some entry) :
    entry ∈ entries ∧ name entry = wanted :=
  ⟨List.mem_of_find?_eq_some found, by simpa using List.find?_some found⟩

theorem exists_find?_of_mem
    {entries : List Entry} (known : wanted ∈ entries.map name) :
    ∃ entry : Entry, find? wanted entries = some entry := by
  obtain ⟨entry, member, named⟩ := List.mem_map.mp known
  rw [← Option.isSome_iff_exists, find?, List.find?_isSome]
  exact ⟨entry, member, by simpa using named⟩

end Named

namespace Section

theorem mem_names_enter (opened : Section) (heading : Heading) :
    heading.name ∈ (opened.enter heading).subsections.map Subsection.name :=
  Named.mem_map_name_alter heading.name
    (Subsection.empty heading.name heading.header.position)
    id opened.subsections (fun _ => rfl) rfl

theorem mem_names_attach (opened : Section) (heading : Heading) (item : Item) :
    heading.name ∈
      (opened.attach (some heading) item).subsections.map Subsection.name :=
  Named.mem_map_name_alter heading.name
    (Subsection.empty heading.name heading.header.position)
    (fun part => { part with items := part.items ++ [item] }) opened.subsections
      (fun _ => rfl) rfl

end Section

namespace Draft

/-! ## Steps -/

/-- One step of making a draft. -/
inductive Step where
  | openSection (name : Text)
  | openSubsection (name : Text) (header : Item)
  | attach (item : Item)
  deriving DecidableEq, Repr

namespace Step

def opensSection : Step → Bool
  | openSection _ => true
  | openSubsection .. | attach _ => false

/-- The items that the step attaches if it succeeds. -/
def items : Step → List Item
  | attach item => [item]
  | openSection _ | openSubsection .. => []

end Step

/-- The draft after a step; `none` if the step fails. -/
def take? (draft : Draft) : Step → Option Draft
  | .openSection name => some (draft.openSection name)
  | .openSubsection name header => draft.openSubsection? name header
  | .attach item => draft.attach? item

/-- The draft after a step that may fail. -/
def take (draft : Draft) (step : Step) : Draft :=
  (draft.take? step).getD draft

/-- The draft that the steps make of the empty draft. -/
def made (steps : List Step) : Draft :=
  steps.foldl take empty

/--
The items of the steps that succeed when the steps are taken from the draft on.
-/
def itemsTaken (draft : Draft) : List Step → List Item
  | [] => []
  | step :: rest =>
      (if (draft.take? step).isSome then step.items else []) ++
        itemsTaken (draft.take step) rest

/-! ## The current entries -/

def currentSection? (draft : Draft) : Option Section :=
  draft.place.bind fun place => Named.find? place.sectionName draft.sections

def currentHeading? (draft : Draft) : Option Heading :=
  draft.place.bind Place.heading

def currentSubsection? (draft : Draft) : Option Subsection :=
  draft.currentHeading?.bind fun heading =>
    draft.currentSection?.bind fun opened =>
      Named.find? heading.name opened.subsections

/-- The header that entered the current subsection. -/
def currentHeader? (draft : Draft) : Option Item :=
  draft.currentHeading?.map Heading.header

/-! ## What a step does -/

/--
The place where the draft goes on after a step, and the
change of the section there.
-/
inductive Effect (draft : Draft) :
    Step → Place → (Section → Section) → Prop where
  | opens (name : Text) :
      Effect draft (.openSection name) ⟨name, none⟩ id
  | enters {sectionName : Text} {heading : Option Heading} (name : Text)
      (header : Item) (isOpen : draft.place = some ⟨sectionName, heading⟩)
      (differs :
        ∀ current ∈ heading, current.isRepeatedBy name header = false) :
      Effect draft (.openSubsection name header)
        ⟨sectionName, some ⟨name, header⟩⟩
        (·.enter ⟨name, header⟩)
  | repeats {sectionName : Text} {current : Heading} (name : Text)
      (header : Item) (isOpen : draft.place = some ⟨sectionName, some current⟩)
      (same : current.isRepeatedBy name header = true) :
      Effect draft (.openSubsection name header) ⟨sectionName, some current⟩
        (·.recordRepeat header current.header.position.row)
  | attaches {sectionName : Text} {heading : Option Heading} (item : Item)
      (isOpen : draft.place = some ⟨sectionName, heading⟩) :
      Effect draft (.attach item) ⟨sectionName, heading⟩ (·.attach heading item)

/-- The draft with one section changed, going on at the place in it. -/
def changedAt
    (draft : Draft) (place : Place) (change : Section → Section) : Draft :=
  { draft.alterSection place.sectionName change with place := some place }

/-- A step that succeeds has its effect. -/
theorem exists_effect
    {draft next : Draft} {step : Step} (takes : draft.take? step = some next) :
    ∃ (place : Place) (change : Section → Section),
      Effect draft step place change ∧ next = draft.changedAt place change := by
  cases step with
  | openSection name =>
      cases takes
      exact ⟨_, _, .opens name, rfl⟩
  | openSubsection name header =>
      rw [take?, openSubsection?] at takes
      split at takes
      · cases takes
      · next isOpen =>
          cases takes
          exact ⟨_, _, .enters name header isOpen (by simp), rfl⟩
      · next sectionName current isOpen =>
          split at takes
          · next same =>
              cases takes
              refine ⟨_, _, .repeats name header isOpen same, ?_⟩
              rw [changedAt, ← isOpen]
              rfl
          · next differs =>
              cases takes
              refine ⟨_, _, .enters name header isOpen ?_, rfl⟩
              rintro _ ⟨⟩
              simpa using differs
  | attach item =>
      rw [take?, attach?] at takes
      split at takes
      · cases takes
      · next sectionName heading isOpen =>
          cases takes
          refine ⟨_, _, .attaches item isOpen, ?_⟩
          rw [changedAt, ← isOpen]
          rfl

theorem take?_eq_none_iff (draft : Draft) (step : Step) :
    draft.take? step = none ↔
      step.opensSection = false ∧ draft.place = none := by
  cases step with
  | openSection name => simp [take?, Step.opensSection]
  | openSubsection name header =>
      cases isPlace : draft.place with
      | none => simp [take?, openSubsection?, isPlace, Step.opensSection]
      | some place =>
          obtain ⟨sectionName, heading⟩ := place
          cases heading with
          | none => simp [take?, openSubsection?, isPlace]
          | some current =>
              simp only [take?, openSubsection?, isPlace]
              split <;> simp
  | attach item => simp [take?, attach?_eq_none_iff, Step.opensSection]

namespace Effect

variable {draft : Draft} {step : Step} {place : Place}
  {change : Section → Section}

theorem extendsTo (effect : Effect draft step place change) (opened : Section) :
    opened.ExtendsTo (change opened) := by
  cases effect with
  | opens name => exact .refl opened
  | enters name header _ _ => exact opened.extendsTo_enter _
  | repeats name header _ _ => exact opened.extendsTo_recordRepeat header _
  | attaches item _ => exact opened.extendsTo_attach _ item

theorem allItems_perm
    (effect : Effect draft step place change) (opened : Section) :
    (change opened).allItems.Perm (opened.allItems ++ step.items) := by
  cases effect with
  | opens name => simp [Step.items]
  | enters name header _ _ => simpa [Step.items] using opened.allItems_enter _
  | repeats name header _ _ => simp [Step.items]
  | attaches item _ => exact opened.allItems_attach _ item

/-- The subsections keep distinct names. -/
theorem nodup_subsections
    (effect : Effect draft step place change) {opened : Section}
    (distinct : (opened.subsections.map Subsection.name).Nodup) :
    ((change opened).subsections.map Subsection.name).Nodup := by
  cases effect with
  | opens name => exact distinct
  | enters name header _ _ =>
      exact Named.nodup_alter (fun _ => rfl) rfl distinct
  | repeats name header _ _ => exact distinct
  | @attaches _ heading item _ =>
      cases heading with
      | none => exact distinct
      | some heading => exact Named.nodup_alter (fun _ => rfl) rfl distinct

end Effect

/-! ## Well-formed drafts -/

/-- Names are distinct, and the place is one that the draft has. -/
structure WellFormed (draft : Draft) : Prop where
  sectionNames : (draft.sections.map Section.name).Nodup
  subsectionNames :
    ∀ opened ∈ draft.sections, (opened.subsections.map Subsection.name).Nodup
  place :
    ∀ place ∈ draft.place, ∃ opened : Section,
      Named.find? place.sectionName draft.sections = some opened ∧
        ∀ heading ∈ place.heading,
          heading.name ∈ opened.subsections.map Subsection.name

theorem wellFormed_empty : empty.WellFormed where
  sectionNames := List.nodup_nil
  subsectionNames := nofun
  place := nofun

/--
The heading of the place after a step names a subsection of the changed section.
-/
theorem Effect.heading_mem
    {draft : Draft} {step : Step} {place : Place} {change : Section → Section}
    (effect : Effect draft step place change) (wellFormed : draft.WellFormed) :
    ∀ heading ∈ place.heading,
      heading.name ∈
        (change ((Named.find? place.sectionName draft.sections).getD
          (Section.empty place.sectionName))).subsections.map
            Subsection.name := by
  cases effect with
  | opens name => exact nofun
  | enters name header _ _ =>
      rintro _ ⟨⟩
      exact Section.mem_names_enter _ _
  | repeats name header isOpen _ =>
      rintro _ ⟨⟩
      obtain ⟨opened, found, known⟩ := wellFormed.place _ isOpen
      rw [found]
      exact known _ rfl
  | attaches item _ =>
      rintro heading ⟨⟩
      exact Section.mem_names_attach _ heading item

/-- A step that succeeds keeps the draft well-formed. -/
theorem WellFormed.changedAt
    {draft : Draft} (wellFormed : draft.WellFormed)
    {step : Step} {place : Place} {change : Section → Section}
    (effect : Effect draft step place change) :
    (draft.changedAt place change).WellFormed := by
  have keepsName (opened : Section) : (change opened).name = opened.name :=
    (effect.extendsTo opened).name
  constructor
  case sectionNames =>
    exact Named.nodup_alter keepsName rfl wellFormed.sectionNames
  case subsectionNames =>
    exact Named.forall_mem_alter wellFormed.subsectionNames
      (fun _ => effect.nodup_subsections)
      (effect.nodup_subsections List.nodup_nil)
  case place =>
    rintro _ ⟨⟩
    exact ⟨_, Named.find?_alter _ _ change draft.sections keepsName rfl,
      effect.heading_mem wellFormed⟩

/-! ## What steps make -/

/--
What holds of the draft that the steps make, and of every step after them.
-/
structure MadeBy (steps : List Step) (draft : Draft) : Prop where
  sectionNames : (draft.sections.map Section.name).Nodup
  subsectionNames :
    ∀ opened ∈ draft.sections, (opened.subsections.map Subsection.name).Nodup
  /-- The current section is the one that the draft has under its name. -/
  currentSection :
    ∀ place ∈ draft.place, ∃ opened ∈ draft.sections,
      opened.name = place.sectionName ∧ draft.currentSection? = some opened
  /--
  The current subsection is the one that the current section has under its name.
  -/
  currentSubsection :
    ∀ heading ∈ draft.currentHeading?, ∃ opened part,
      draft.currentSection? = some opened ∧ part ∈ opened.subsections ∧
        part.name = heading.name ∧ draft.currentSubsection? = some part
  currentHeader : draft.currentHeader? = none ↔ draft.currentSubsection? = none
  /-- Over all scopes there is one item for each attachment that succeeded. -/
  items : draft.allItems.Perm (empty.itemsTaken steps)
  /--
  Only steps inside a section fail, and only while no section has been opened.
  -/
  fails :
    ∀ step : Step, draft.take? step = none ↔
      step.opensSection = false ∧
        ∀ earlier ∈ steps, earlier.opensSection = false
  failed :
    ∀ step : Step, draft.take? step = none → made (steps ++ [step]) = draft
  /-- A step that succeeds extends the section that is current after it. -/
  succeeded :
    ∀ (step : Step) (next : Draft), draft.take? step = some next →
      made (steps ++ [step]) = next ∧ ∃ place ∈ next.place,
        Named.ExtendedAt Section.ExtendsTo place.sectionName
          (Section.empty place.sectionName)
          draft.sections next.sections

theorem made_snoc (steps : List Step) (step : Step) :
    made (steps ++ [step]) = (made steps).take step := by
  rw [made, List.foldl_append, made]
  rfl

theorem wellFormed_take
    {draft : Draft} (wellFormed : draft.WellFormed) (step : Step) :
    (draft.take step).WellFormed := by
  cases takes : draft.take? step with
  | none => rwa [take, takes]
  | some next =>
      obtain ⟨place, change, effect, rfl⟩ := exists_effect takes
      rw [take, takes]
      exact wellFormed.changedAt effect

theorem wellFormed_made (steps : List Step) : (made steps).WellFormed := by
  induction steps using List.reverseRecOn with
  | nil => exact wellFormed_empty
  | append_singleton steps step ih =>
      rw [made_snoc]
      exact wellFormed_take ih step

theorem allItems_take (draft : Draft) (step : Step) :
    (draft.take step).allItems.Perm
      (draft.allItems ++
        if (draft.take? step).isSome then step.items else []) := by
  cases takes : draft.take? step with
  | none => simp [take, takes]
  | some next =>
      obtain ⟨place, change, effect, rfl⟩ := exists_effect takes
      have grown :
          (draft.changedAt place change).allItems.Perm
            (draft.allItems ++ step.items) :=
        allItems_alterSection effect.allItems_perm draft place.sectionName
      simpa [take, takes] using grown

theorem allItems_foldl_take (draft : Draft) (steps : List Step) :
    (steps.foldl take draft).allItems.Perm
      (draft.allItems ++ draft.itemsTaken steps) := by
  induction steps generalizing draft with
  | nil => simp [itemsTaken]
  | cons step rest ih =>
      rw [List.foldl_cons, itemsTaken, ← List.append_assoc]
      exact (ih (draft.take step)).trans
        ((draft.allItems_take step).append_right _)

/-- Nowhere is open exactly as long as no section has been opened. -/
theorem place_made_eq_none_iff (steps : List Step) :
    (made steps).place = none ↔
      ∀ earlier ∈ steps, earlier.opensSection = false := by
  induction steps using List.reverseRecOn with
  | nil => simp [made, empty]
  | append_singleton steps step ih =>
      rw [made_snoc, take, List.forall_mem_append, List.forall_mem_singleton,
        ← ih]
      cases takes : (made steps).take? step with
      | none =>
          obtain ⟨inside, nowhere⟩ := (take?_eq_none_iff _ _).mp takes
          simp [inside, nowhere]
      | some next =>
          have succeeds :
              ¬ (step.opensSection = false ∧ (made steps).place = none) := by
            rw [← take?_eq_none_iff, takes]
            simp
          obtain ⟨place, change, _, rfl⟩ := exists_effect takes
          rw [and_comm] at succeeds
          simp [changedAt, succeeds]

theorem exists_currentSection
    {draft : Draft} (wellFormed : draft.WellFormed) {place : Place}
    (isOpen : draft.place = some place) :
    ∃ opened ∈ draft.sections,
      opened.name = place.sectionName ∧ draft.currentSection? = some opened ∧
        ∀ heading ∈ place.heading,
          heading.name ∈ opened.subsections.map Subsection.name := by
  obtain ⟨opened, found, known⟩ := wellFormed.place place isOpen
  obtain ⟨member, named⟩ := Named.mem_and_name_of_find? found
  exact
    ⟨opened, member, named, by rw [currentSection?, isOpen]; exact found, known⟩

theorem exists_currentSubsection
    {draft : Draft} (wellFormed : draft.WellFormed) {heading : Heading}
    (isOpen : draft.currentHeading? = some heading) :
    ∃ opened part, draft.currentSection? = some opened ∧
      part ∈ opened.subsections ∧
      part.name = heading.name ∧ draft.currentSubsection? = some part := by
  obtain ⟨place, isPlace, inPlace⟩ := Option.bind_eq_some_iff.mp isOpen
  obtain ⟨opened, _, _, isCurrent, known⟩ :=
    exists_currentSection wellFormed isPlace
  obtain ⟨part, found⟩ := Named.exists_find?_of_mem (known heading inPlace)
  obtain ⟨member, named⟩ := Named.mem_and_name_of_find? found
  refine ⟨opened, part, isCurrent, member, named, ?_⟩
  rw [currentSubsection?, isOpen, isCurrent]
  exact found

/-- Every sequence of steps, whatever steps of it fail, makes such a draft. -/
theorem made_madeBy (steps : List Step) : MadeBy steps (made steps) := by
  have wellFormed := wellFormed_made steps
  constructor
  case sectionNames => exact wellFormed.sectionNames
  case subsectionNames => exact wellFormed.subsectionNames
  case currentSection =>
    intro place isOpen
    obtain ⟨opened, member, named, isCurrent, _⟩ :=
      exists_currentSection wellFormed isOpen
    exact ⟨opened, member, named, isCurrent⟩
  case currentSubsection =>
    intro heading isOpen
    exact exists_currentSubsection wellFormed isOpen
  case currentHeader =>
    cases isOpen : (made steps).currentHeading? with
    | none => simp [currentHeader?, currentSubsection?, isOpen]
    | some heading =>
        obtain ⟨_, part, _, _, _, isCurrent⟩ :=
          exists_currentSubsection wellFormed isOpen
        simp [currentHeader?, isOpen, isCurrent]
  case items => exact allItems_foldl_take empty steps
  case fails =>
    intro step
    rw [take?_eq_none_iff, place_made_eq_none_iff]
  case failed =>
    intro step fails
    rw [made_snoc, take, fails]
    rfl
  case succeeded =>
    intro step next takes
    obtain ⟨place, change, effect, rfl⟩ := exists_effect takes
    refine ⟨by rw [made_snoc, take, takes]; rfl, place, rfl, ?_⟩
    exact extendedAt_alterSection effect.extendsTo
      (made steps) place.sectionName

end Draft

end OutlineLint
