import OutlineLint.Balance
import OutlineLint.Reference

/-!
# Findings

A finding names a fault of a file and the place of it.  What a checker reports
is complete, but a finding may also be handed over by a caller, with labels of
the caller's own and with details missing.  Such a finding still has a message,
with one exception: a mismatch has to say where its opening bracket stands.
-/

namespace OutlineLint

/-- The ways in which a bracket can be wrong. -/
inductive BracketFault where
  | unmatched
  | mismatched
  | unclosed
  /-- A label of the caller's; it reads like `unclosed`. -/
  | other (label : Text)
  deriving DecidableEq, Repr

/-- The ways in which a reference can be unresolved. -/
inductive ReferenceFault where
  /-- No section has the name before the first dot. -/
  | unknownPrefix
  /-- The section exists and has nothing of the name after the dot. -/
  | suffixNotFound
  /-- No section has the name of a reference without a dot. -/
  | unknownSection
  /-- A label of the caller's; it reads like `unknownSection`. -/
  | other (label : Text)
  deriving DecidableEq, Repr

/-- What a finding says beside its place. -/
inductive FindingDetail where
  | balance
      (fault : BracketFault) (bracket : Text)
      (openedAt : Option Position) (expected : Option Text)
  | duplicate (scope : Text) (text : Text) (firstRow : Int)
  | unresolved
      (fault : ReferenceFault) (reference : Text)
      (first second : Option Text)
  deriving DecidableEq, Repr

/-- A fault of a file and its place. -/
structure Finding where
  file : Text
  position : Position
  detail : FindingDetail
  deriving DecidableEq, Repr

namespace BracketFault

def label : BracketFault → Text
  | unmatched => "unmatched".toList
  | mismatched => "mismatched".toList
  | unclosed => "unclosed".toList
  | other label => label

def ofLabel (label : Text) : BracketFault :=
  if label = unmatched.label then unmatched
  else if label = mismatched.label then mismatched
  else if label = unclosed.label then unclosed
  else other label

@[simp]
theorem label_ofLabel (label : Text) : (ofLabel label).label = label := by
  unfold ofLabel
  split
  · next same => exact same.symm
  · split
    · next same => exact same.symm
    · split
      · next same => exact same.symm
      · rfl

end BracketFault

namespace ReferenceFault

def label : ReferenceFault → Text
  | unknownPrefix => "unknown_prefix".toList
  | suffixNotFound => "suffix_not_found".toList
  | unknownSection => "unknown_section".toList
  | other label => label

def ofLabel (label : Text) : ReferenceFault :=
  if label = unknownPrefix.label then unknownPrefix
  else if label = suffixNotFound.label then suffixNotFound
  else if label = unknownSection.label then unknownSection
  else other label

@[simp]
theorem label_ofLabel (label : Text) : (ofLabel label).label = label := by
  unfold ofLabel
  split
  · next same => exact same.symm
  · split
    · next same => exact same.symm
    · split
      · next same => exact same.symm
      · rfl

end ReferenceFault

def FindingDetail.kind : FindingDetail → Text
  | balance .. => "balance".toList
  | duplicate .. => "duplicate".toList
  | unresolved .. => "unresolved_token".toList

/-- A name in a message, `None` if it is missing. -/
def shownName (name : Option Text) : Text :=
  name.getD "None".toList

namespace Finding

/-- Where the finding stands, as `file:row:column`. -/
def shownPlace (finding : Finding) : Text :=
  finding.position.shownIn finding.file

def bracketMessage?
    (finding : Finding) (fault : BracketFault) (bracket : Text)
    (openedAt : Option Position) (expected : Option Text) : Option Text :=
  match fault with
  | .unmatched =>
      some ("Unmatched closing '".toList ++ bracket
        ++ "' at ".toList ++ finding.shownPlace)
  | .mismatched =>
      openedAt.map fun opening =>
        "Mismatched closing '".toList ++ bracket
          ++ "' at ".toList ++ finding.shownPlace
          ++ ", expecting '".toList ++ shownName expected
          ++ "' to match opening at ".toList ++ opening.shownIn finding.file
  | .unclosed | .other _ =>
      some ("Unclosed '".toList ++ bracket
        ++ "' opened at ".toList ++ finding.shownPlace)

def duplicateMessage
    (finding : Finding) (scope text : Text) (firstRow : Int) : Text :=
  finding.file ++ ':' :: Text.ofInt finding.position.row
    ++ " Duplicate entry in section '".toList ++ scope ++ "': \"".toList ++ text
    ++ "\" (first at ".toList ++ scope ++ ':' :: Text.ofInt firstRow ++ [')']

def referenceMessage
    (finding : Finding) (fault : ReferenceFault) (reference : Text)
    (first second : Option Text) : Text :=
  match fault with
  | .unknownPrefix =>
      finding.shownPlace ++ " Unknown token prefix '[".toList ++ reference
        ++ "]' — no top-level section named '".toList
        ++ shownName first ++ ['\'']
  | .suffixNotFound =>
      finding.shownPlace ++ " Unresolved token '[".toList ++ reference
        ++ "]' — prefix '".toList ++ shownName first
        ++ "' exists but suffix '".toList
        ++ shownName second ++ "' not found".toList
  | .unknownSection | .other _ =>
      finding.shownPlace ++ " Unresolved token '[".toList ++ reference
        ++ "]' — no section named '".toList ++ reference ++ ['\'']

/--
The message of a finding; absent for a mismatch without its opening position.
-/
def message? (finding : Finding) : Option Text :=
  match finding.detail with
  | .balance fault bracket openedAt expected =>
      finding.bracketMessage? fault bracket openedAt expected
  | .duplicate scope text firstRow =>
      some (finding.duplicateMessage scope text firstRow)
  | .unresolved fault reference first second =>
      some (finding.referenceMessage fault reference first second)

end Finding

def BracketProblem.finding (file : Text) : BracketProblem → Finding
  | unmatched bracket position =>
      ⟨file, position, .balance .unmatched [bracket.closer] none none⟩
  | mismatched bracket position opened =>
      ⟨file, position,
        .balance .mismatched [bracket.closer] (some opened.position)
          (some [opened.bracket.closer])⟩
  | unclosed opened =>
      ⟨file, opened.position,
        .balance .unclosed [opened.bracket.opener] none none⟩

/-- The finding about the brackets of the text of a file. -/
def Balance.finding? (file text : Text) : Option Finding :=
  (Balance.problem? text).map (BracketProblem.finding file)

end OutlineLint
