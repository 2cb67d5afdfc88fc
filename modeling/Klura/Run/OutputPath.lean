import Klura.Run.Output

/-! The destination that a run declares for its file. -/

namespace Klura

/-- The most bytes that a destination's path may take. -/
def MAX_OUTPUT_PATH_BYTES_V1 : Nat := 4096

/-- The parts of a path between its slashes. -/
def pathSegments : List Char → List (List Char)
  | [] => [[]]
  | '/' :: rest => [] :: pathSegments rest
  | char :: rest =>
    match pathSegments rest with
    | [] => [[char]]
    | segment :: segments => (char :: segment) :: segments

/-- The resolved parts once one more part of a path is resolved. -/
def resolveSegment (resolved : List (List Char)) (segment : List Char) : List (List Char) :=
  if segment = [] ∨ segment = ['.'] then resolved
  else if segment = ['.', '.'] then resolved.dropLast
  else resolved ++ [segment]

/-- An absolute path without empty parts, dots and double dots. -/
def resolveAbsolute (path : List Char) : List Char :=
  '/' :: ['/'].intercalate ((pathSegments path).foldl resolveSegment [])

/-- Checks that a path is absolute, normalized and not too long. -/
def parseAbsoluteOutputPath (path field : String) : Except RunError Unit :=
  if path = "" then .error (.publicContract field "must be a non-empty absolute path")
  else if MAX_OUTPUT_PATH_BYTES_V1 < (utf8 path).length ∨ '\x00' ∈ path.toList then
    .error (.publicContract field "is invalid")
  else if path.toList.head? ≠ some '/' then
    .error (.publicContract field "must be an absolute path")
  else if resolveAbsolute path.toList ≠ path.toList then
    .error (.publicContract field "must be a normalized absolute path")
  else .ok ()

/-- Checks the destination that is recorded with a run. -/
def parseRunOutput (output : RunOutputV1) (field : String) : Except RunError Unit :=
  match output with
  | .inline => .ok ()
  | .file requestedPath _ => parseAbsoluteOutputPath requestedPath (field ++ ".requested_path")

theorem parseAbsoluteOutputPath_ok {path field : String}
    (accepted : parseAbsoluteOutputPath path field = .ok ()) :
    path ≠ "" ∧ (utf8 path).length ≤ MAX_OUTPUT_PATH_BYTES_V1 := by
  unfold parseAbsoluteOutputPath at accepted
  by_cases empty : path = ""
  · simp [empty] at accepted
  by_cases long : MAX_OUTPUT_PATH_BYTES_V1 < (utf8 path).length
  · simp [empty, long] at accepted
  · exact ⟨empty, Nat.le_of_not_lt long⟩

theorem pathSegments_single {segment : List Char} (plain : '/' ∉ segment) :
    pathSegments segment = [segment] := by
  induction segment with
  | nil => rfl
  | cons char rest ih =>
    have first : char ≠ '/' := fun same => plain (by simp [same])
    have later : '/' ∉ rest := fun member => plain (by simp [member])
    rw [pathSegments]
    · rw [ih later]
    · exact first

theorem resolveAbsolute_single {segment : List Char} (plain : '/' ∉ segment)
    (some : segment ≠ []) (dot : segment ≠ ['.']) (dots : segment ≠ ['.', '.']) :
    resolveAbsolute ('/' :: segment) = '/' :: segment := by
  unfold resolveAbsolute
  rw [pathSegments, pathSegments_single plain]
  simp [resolveSegment, some, dot, dots, List.intercalate]

end Klura
