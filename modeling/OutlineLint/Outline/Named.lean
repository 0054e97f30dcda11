import OutlineLint.Text.Basic

/-!
# Lists of named entries

Entries that are looked up by name and keep the order in which they were made.
`alter` changes the entry of a name and makes it first if there is none, so a
list that begins with distinct names keeps distinct names.
-/

namespace OutlineLint

class Named (Entry : Type) where
  name : Entry → Text

namespace Named

variable {Entry : Type} [Named Entry]

def find? (wanted : Text) (entries : List Entry) : Option Entry :=
  entries.find? (name · = wanted)

/--
Changes the first entry of the given name.  If there is none, the change is made
to a fresh entry, which is put at the end.
-/
def alter (wanted : Text) (fresh : Entry) (change : Entry → Entry) :
    List Entry → List Entry
  | [] => [change fresh]
  | entry :: rest =>
      if name entry = wanted then
        change entry :: rest
      else
        entry :: alter wanted fresh change rest

theorem find?_alter
    (wanted : Text) (fresh : Entry) (change : Entry → Entry)
    (entries : List Entry)
    (keeps : ∀ entry : Entry, name (change entry) = name entry)
    (freshName : name fresh = wanted) :
    find? wanted (alter wanted fresh change entries) =
      some (change ((find? wanted entries).getD fresh)) := by
  induction entries with
  | nil => simp [alter, find?, keeps, freshName]
  | cons entry rest ih =>
      by_cases same : name entry = wanted
      · simp [alter, find?, same, keeps]
      · simpa [alter, find?, same] using ih

theorem map_name_alter
    (wanted : Text) (fresh : Entry) (change : Entry → Entry)
    (entries : List Entry)
    (keeps : ∀ entry : Entry, name (change entry) = name entry)
    (freshName : name fresh = wanted) :
    (alter wanted fresh change entries).map name =
      if wanted ∈ entries.map name then
        entries.map name
      else
        entries.map name ++ [wanted] := by
  induction entries with
  | nil => simp [alter, keeps, freshName]
  | cons entry rest ih =>
      by_cases same : name entry = wanted
      · simp [alter, same, keeps]
      · have other : ¬ wanted = name entry := fun equal => same equal.symm
        simp only [alter, same, if_false, List.map_cons, ih, List.mem_cons,
          other, false_or]
        split <;> rfl

/-- Changing an entry of a list that is made from distinct names. -/
theorem alter_map
    (wanted : Text) (fresh : Entry) (change : Entry → Entry)
    (names : List Text) (entryOf : Text → Entry)
    (distinct : names.Nodup)
    (named : ∀ other : Text, name (entryOf other) = other) :
    alter wanted fresh change (names.map entryOf) =
      (names.map fun other =>
          if other = wanted then change (entryOf other) else entryOf other) ++
        if wanted ∈ names then [] else [change fresh] := by
  induction names with
  | nil => simp [alter]
  | cons first rest ih =>
      rw [List.nodup_cons] at distinct
      obtain ⟨firstNew, restDistinct⟩ := distinct
      rw [List.map_cons, alter, named]
      by_cases same : first = wanted
      · subst same
        have restUnchanged :
            (rest.map fun other =>
                if other = first then change (entryOf other)
                  else entryOf other) =
              rest.map entryOf := by
          apply List.map_congr_left
          intro other member
          rw [if_neg]
          rintro rfl
          exact firstNew member
        simp [restUnchanged]
      · have other : ¬ wanted = first := fun equal => same equal.symm
        rw [if_neg same, ih restDistinct]
        simp [same, other]

end Named

end OutlineLint
