import OutlineLint.FileTree.Write

/-!
# Reading what was written

A file is put where no directory is, and only directories lead on when a path is
followed.  So a path that could be followed to the file before it was written is
followed to it afterwards, and has the new contents there.
-/

namespace OutlineLint.FileTree

theorem node?_put_of_ne
    (tree : FileTree) {route other : Route} (different : other ≠ route)
    (node : Node) :
    (tree.put route node).node? other = tree.node? other := by
  have otherEntries (entries : List (Route × Node)) :
      (entries.filter (·.1 != route)).lookup other = entries.lookup other := by
    induction entries with
    | nil => rfl
    | cons entry rest ih =>
        obtain ⟨key, found⟩ := entry
        by_cases replaced : key = route
        · subst replaced
          have notKey : (other == key) = false := by simpa using different
          rw [List.filter_cons_of_neg (by simp), List.lookup_cons, notKey, ih]
        · rw [List.filter_cons_of_pos (by simpa using replaced),
            List.lookup_cons, List.lookup_cons, ih]
  have notRoute : (other == route) = false := by simpa using different
  rw [node?, node?, put, List.lookup_cons, notRoute, otherEntries]

section Put

variable {tree : FileTree} {route : Route}
  (noDirectory : tree.node? route ≠ some .directory)
    (node : Node)

include noDirectory

theorem walk_put
    {here there : Route} {components : List Bytes}
    (walked : tree.walk here components = .ok there) :
    (tree.put route node).walk here components = .ok there := by
  induction components generalizing here with
  | nil => exact walked
  | cons component rest ih =>
      rw [walk] at walked ⊢
      split at walked
      · next upward =>
          rw [if_pos upward]
          exact ih walked
      · next notUpward =>
          rw [if_neg notUpward]
          split at walked
          · cases walked
          · next short =>
              rw [if_neg short]
              split at walked
              · cases walked
              · cases walked
              · next isDirectory =>
                  -- The walk goes on through a directory, which is not
                  -- where the entry is put.
                  have different : here ++ [component] ≠ route := by
                    rintro rfl
                    exact noDirectory isDirectory
                  rw [node?_put_of_ne tree different, isDirectory]
                  exact ih walked

theorem locate_put
    {directory found : Route} {path : PathName}
    (located : tree.locate directory path = .ok found) :
    (tree.put route node).locate directory path = .ok found := by
  simp only [locate] at located ⊢
  generalize (if path.root.isEmpty = true then directory else []) =
    start at located ⊢
  split at located
  · cases located
  · next accepted =>
      rw [if_neg accepted]
      split at located
      · exact located
      · split at located
        · cases located
        · next there walked =>
            rw [walk_put noDirectory node walked]
            exact located

end Put

/-- A path at which a file was written leads to the file. -/
theorem status_of_writeFile
    {tree changed : FileTree} {directory : Route} {path : PathName}
    {contents : Bytes}
    (written : tree.writeFile directory path contents = .ok changed) :
    changed.status directory path = .ok (.file contents) := by
  unfold writeFile at written
  split at written
  · cases written
  · next route located =>
      split at written
      · cases written
      · next notDirectory =>
          have noDirectory : tree.node? route ≠ some .directory := notDirectory
          have below : route ≠ [] := by
            rintro rfl
            exact noDirectory (node?_root tree)
          cases written
          rw [status, locate_put noDirectory _ located]
          simp only [node?_put_self tree route _ below]

end OutlineLint.FileTree
