import Klura.Library.CodeUnits

/-! The words of a command line, and the program that it runs. -/

namespace Klura

/-- How the next unit of a command line is read. -/
inductive Quoting where
  | bare
  | escaped
  | single
  | double
  | doubleEscaped
  deriving DecidableEq

/-- How what comes after a unit is read. -/
def Quoting.next : Quoting → UInt16 → Quoting
  | .bare, unit =>
    if unit = 92 then .escaped else if unit = 39 then .single else if unit = 34 then .double
    else .bare
  | .escaped, _ => .bare
  | .single, unit => if unit = 39 then .bare else .single
  | .double, unit => if unit = 92 then .doubleEscaped else if unit = 34 then .bare else .double
  | .doubleEscaped, _ => .double

/-- Whether a unit separates words. -/
def isShellBlank (unit : UInt16) : Bool := unit = 32 ∨ unit = 9

/-- The words of a command line that end before a blank, as they are written, with the last word,
how far it has been read, and whether a comment has begun. -/
structure LineReading where
  words : List Units
  last : Units
  quoting : Quoting
  comment : Bool
  deriving DecidableEq

namespace LineReading

/-- A line of which nothing has been read. -/
def start : LineReading := ⟨[], [], .bare, false⟩

/-- Reads one unit of a line. -/
def read (reading : LineReading) (unit : UInt16) : LineReading :=
  if reading.comment then reading
  else if reading.quoting = .bare ∧ isShellBlank unit = true then
    if reading.last = [] then reading
    else { reading with words := reading.words ++ [reading.last], last := [] }
  else if reading.last = [] ∧ unit = 35 then { reading with comment := true }
  else { reading with
    last := reading.last ++ [unit]
    quoting := reading.quoting.next unit }

/-- The words of a line at its end, where a quotation that is left open leaves no last word. -/
def finish (reading : LineReading) : List Units :=
  if reading.last ≠ [] ∧ (reading.quoting = .bare ∨ reading.quoting = .escaped) then
    reading.words ++ [reading.last]
  else reading.words

end LineReading

/-- A line as far as some of its text goes. -/
def readLine (text : Units) : LineReading := text.foldl LineReading.read .start

/-- The words of a command line. -/
def shellWords (line : Units) : List Units := (readLine line).finish

/-- Whether a unit may stand in the name of a variable. -/
def isNameUnit (unit : UInt16) : Bool :=
  let code := unit.toNat
  decide (48 ≤ code ∧ code ≤ 57) || decide (65 ≤ code ∧ code ≤ 90) || code == 95
    || decide (97 ≤ code ∧ code ≤ 122)

/-- Whether a unit may be the first of the name of a variable. -/
def isNameStart (unit : UInt16) : Bool := isNameUnit unit && decide (57 < unit.toNat)

/-- Whether a word sets a variable for the program behind it, or negates how the program ends. -/
def precedesProgram (word : Units) : Bool :=
  word = [33] ||
    (word.head?.any isNameStart && (word.dropWhile isNameUnit).head? = some 61)

/-- The program that the words of a command line run. -/
def programOf (words : List Units) : Option Units := words.find? fun word => !precedesProgram word

/-- What has been read only grows. -/
theorem LineReading.read_words (reading : LineReading) (unit : UInt16) :
    reading.words <+: (reading.read unit).words := by
  unfold read
  split
  · exact List.prefix_refl _
  · split
    · split
      · exact List.prefix_refl _
      · exact List.prefix_append _ _
    · split <;> exact List.prefix_refl _

/-- The words that end in a part of a line are the first words of the line. -/
theorem readLine_words (front back : Units) :
    (readLine front).words <+: shellWords (front ++ back) := by
  have general : ∀ reading : LineReading,
      reading.words <+: (back.foldl LineReading.read reading).words := by
    induction back with
    | nil => exact fun reading => List.prefix_refl _
    | cons unit rest ih => exact fun reading => (reading.read_words unit).trans (ih _)
  have more := general (readLine front)
  have whole : readLine (front ++ back) = back.foldl LineReading.read (readLine front) := by
    simp [readLine]
  rw [← whole] at more
  unfold shellWords LineReading.finish
  split
  · exact more.trans (List.prefix_append _ _)
  · exact more

theorem programOf_prefix {front words : List Units} (start : front <+: words) {program : Units}
    (found : programOf front = some program) : programOf words = some program := by
  obtain ⟨back, rfl⟩ := start
  simp only [programOf] at found
  simp [programOf, List.find?_append, found]

end Klura
