import Klura.Identity.Secrets
import Klura.Library.ShellWords
import Mathlib.Tactic.SplitIfs

/-! Which references leave the command of a secret what it was configured to be. -/

namespace Klura

namespace Secrets

/-- A template with its places filled in literally. -/
def literalCommand (template ref : Units) : Units :=
  (literalPattern REF_PLACEHOLDER ref).replaceAll template

/-- The program that a template configures, which stands before its first reference. -/
def configuredProgram (template : Units) : Option Units :=
  match beforeFirst REF_PLACEHOLDER template with
  | some front => programOf (readLine front).words
  | none => programOf (shellWords template)

/-- The command is the template with the reference for its places, it has nothing by which a shell
would do more than run one command, and the program it runs is the one that is configured. -/
structure Invocation.OnlyConfigured (invocation : Invocation) : Prop where
  literal : invocation.command = literalCommand invocation.template invocation.ref
  simple : hasShellMetachar invocation.command = false
  program : ∃ program, configuredProgram invocation.template = some program ∧
    programOf (shellWords invocation.command) = some program

/-- The template configures a program before its first reference, and has no place for a reference
or gets one without what is forbidden in templates. -/
def Invocation.Harmless (invocation : Invocation) : Prop :=
  configuredProgram invocation.template ≠ none ∧
    (includes invocation.template REF_PLACEHOLDER = false ∨
      hasShellMetachar invocation.ref = false)

variable {text : Units}

theorem hasShellMetachar_iff :
    hasShellMetachar text = true ↔ ∃ unit ∈ text, isShellMetachar unit = true := by
  have part : ∀ first second, isShellMetachar first = true →
      includes text [first, second] = true → ∃ unit ∈ text, isShellMetachar unit = true := by
    intro first second forbidden inside
    exact ⟨first, (includes_iff.mp inside).subset (by simp), forbidden⟩
  simp only [hasShellMetachar, Bool.or_eq_true, List.any_eq_true]
  constructor
  · rintro (((one | two) | two) | two)
    · exact one
    · exact part 36 40 (by decide) two
    · exact part 38 38 (by decide) two
    · exact part 124 124 (by decide) two
  · exact fun one => .inl (.inl (.inl one))

theorem hasShellMetachar_eq_false :
    hasShellMetachar text = false ↔ ∀ unit ∈ text, isShellMetachar unit = false := by
  rw [← Bool.not_eq_true, hasShellMetachar_iff]
  simp

theorem checkResolver_simple {scheme command : Units}
    (checked : checkResolver scheme command = .ok ()) : hasShellMetachar command = false := by
  by_contra forbidden
  rw [Bool.not_eq_false] at forbidden
  simp only [checkResolver, forbidden, if_true] at checked
  split_ifs at checked

theorem refPlaceholder_inhabited : REF_PLACEHOLDER ≠ [] := by decide

theorem commandOf_simple {ref : Units} (template : Units) (simple : hasShellMetachar ref = false) :
    commandOf template ref = literalCommand template ref := by
  refine substituteAll_plain template fun member => ?_
  -- A dollar sign is forbidden.
  have forbidden := hasShellMetachar_eq_false.mp simple 36 member
  exact absurd forbidden (by decide)

variable {invocation : Invocation}

/-- An invocation is only what is configured just when the reference is harmless. -/
theorem Invocation.onlyConfigured_iff
    (made : invocation.command = commandOf invocation.template invocation.ref)
    (clear : hasShellMetachar invocation.template = false) :
    invocation.OnlyConfigured ↔ invocation.Harmless := by
  cases placed : includes invocation.template REF_PLACEHOLDER with
  | false =>
    -- Without a place, the command is the template.
    have same : invocation.command = invocation.template := made.trans
      (substituteAll_absent invocation.ref placed)
    have literal : literalCommand invocation.template invocation.ref = invocation.template :=
      replaceAll_absent placed
    have front : beforeFirst REF_PLACEHOLDER invocation.template = none := by
      cases found : beforeFirst REF_PLACEHOLDER invocation.template with
      | none => rfl
      | some front =>
        obtain ⟨⟨rest, whole⟩, -⟩ := replaceAll_beforeFirst [] refPlaceholder_inhabited found
        have inside : includes invocation.template REF_PLACEHOLDER = true :=
          includes_iff.mpr ⟨front, rest, whole.symm⟩
        rw [placed] at inside
        exact absurd inside (by simp)
    have configured : configuredProgram invocation.template =
        programOf (shellWords invocation.template) := by
      simp only [configuredProgram, front]
    constructor
    · rintro ⟨-, -, program, known, -⟩
      exact ⟨by simp [known], .inl placed⟩
    · rintro ⟨known, -⟩
      obtain ⟨program, known⟩ := Option.ne_none_iff_exists'.mp known
      exact ⟨same.trans literal.symm, by rw [same]; exact clear, program, known, by
        rw [same, ← configured, known]⟩
  | true =>
    obtain ⟨front, found⟩ := beforeFirst_of_includes placed
    obtain ⟨-, rest, filled⟩ := replaceAll_beforeFirst invocation.ref refPlaceholder_inhabited found
    constructor
    · rintro ⟨literal, simple, program, known, -⟩
      refine ⟨by simp [known], .inr ?_⟩
      -- The reference is a part of the command, so it has nothing forbidden either.
      rw [hasShellMetachar_eq_false] at simple ⊢
      intro unit member
      refine simple unit ?_
      rw [literal, literalCommand, filled]
      simp [member]
    · rintro ⟨known, harmless⟩
      have plain : hasShellMetachar invocation.ref = false := by
        rcases harmless with absent | plain
        · rw [placed] at absent
          exact absurd absent (by simp)
        · exact plain
      have literal := made.trans (commandOf_simple invocation.template plain)
      obtain ⟨program, known⟩ := Option.ne_none_iff_exists'.mp known
      refine ⟨literal, ?_, program, known, ?_⟩
      · rw [literal, hasShellMetachar_eq_false]
        intro unit member
        rcases mem_replaceAll member with old | new
        · exact hasShellMetachar_eq_false.mp clear unit old
        · exact hasShellMetachar_eq_false.mp plain unit new
      · -- The program is among the words that end before the reference.
        simp only [configuredProgram, found] at known
        refine programOf_prefix ?_ known
        rw [literal, literalCommand, filled, List.append_assoc]
        exact readLine_words front _

variable {resolvers : Resolvers}

theorem resolveSecret_made {shell : Shell} {scheme ref : Units}
    (member : invocation ∈ (resolveSecret resolvers shell scheme ref).invocations) :
    invocation.command = commandOf invocation.template invocation.ref ∧
      hasShellMetachar invocation.template = false := by
  unfold resolveSecret at member
  cases found : OrderedMap.get? resolvers.entries scheme with
  | none => simp [found] at member
  | some template =>
    have checked := checkResolver_simple (resolvers.checked _ (OrderedMap.mem_of_get? found))
    simp only [found] at member
    cases ran : shell (commandOf template ref) with
    | none =>
      obtain rfl : invocation = ⟨template, ref, commandOf template ref⟩ := by
        simpa [ran] using member
      exact ⟨rfl, checked⟩
    | some output =>
      obtain rfl : invocation = ⟨template, ref, commandOf template ref⟩ := by
        simpa [ran] using member
      exact ⟨rfl, checked⟩

theorem resolveFrom_made {shell : Shell} : ∀ skip,
    invocation ∈ (resolveFrom resolvers shell skip text).invocations →
      invocation.command = commandOf invocation.template invocation.ref ∧
        hasShellMetachar invocation.template = false := by
  -- The induction follows the string, whose first unit may start a reference.
  induction text with
  | nil => intro skip member; cases skip <;> simp [resolveFrom] at member
  | cons unit rest ih =>
    intro skip member
    cases skip with
    | succ skip => exact ih skip (by simpa [resolveFrom] using member)
    | zero =>
      unfold resolveFrom at member
      cases token : secretReference (unit :: rest) with
      | none => exact ih 0 (by simpa [token] using member)
      | some reference =>
        obtain ⟨scheme, ref⟩ := reference
        simp only [token] at member
        cases result : (resolveSecret resolvers shell scheme ref).result with
        | error error =>
          simp only [result] at member
          exact resolveSecret_made member
        | ok secret =>
          simp only [result, List.mem_append] at member
          rcases member with here | later
          · exact resolveSecret_made here
          · exact ih _ later

/-- Whether resolving a string runs nothing but the configured commands. -/
def RunsOnlyConfigured (resolvers : Resolvers) (shell : Shell) (text : Units) : Prop :=
  ∀ invocation ∈ (resolveSecrets resolvers shell text).invocations, invocation.OnlyConfigured

/-- Whether all references that are resolved in a string are harmless. -/
def ResolvesHarmless (resolvers : Resolvers) (shell : Shell) (text : Units) : Prop :=
  ∀ invocation ∈ (resolveSecrets resolvers shell text).invocations, invocation.Harmless

/-- Resolving a string runs nothing but the configured commands just when all references that it
resolves are harmless. -/
theorem runsOnlyConfigured_iff (resolvers : Resolvers) (shell : Shell) (text : Units) :
    RunsOnlyConfigured resolvers shell text ↔ ResolvesHarmless resolvers shell text := by
  have each : ∀ invocation ∈ (resolveSecrets resolvers shell text).invocations,
      (invocation.OnlyConfigured ↔ invocation.Harmless) := by
    intro invocation member
    obtain ⟨made, clear⟩ := resolveFrom_made 0 member
    exact Invocation.onlyConfigured_iff made clear
  constructor
  · exact fun all invocation member => (each invocation member).mp (all invocation member)
  · exact fun all invocation member => (each invocation member).mpr (all invocation member)

theorem addSecretResolver_ok {resolvers : Resolvers} {scheme command : Units}
    (checked : checkResolver scheme command = .ok ()) :
    ∃ next, resolvers.addSecretResolver scheme command = .ok next ∧
      next.entries = OrderedMap.set resolvers.entries scheme command := by
  unfold Resolvers.addSecretResolver
  split
  · rename_i error refused
    rw [checked] at refused
    exact absurd refused (by simp)
  · exact ⟨_, rfl, rfl⟩

/-- The resolver of a password store. -/
def passCommand : Units := ascii "pass show \x7b\x7bref\x7d\x7d"

/-- The table with that resolver. -/
def passResolvers : Resolvers := ⟨[(ascii "pass", passCommand)], by decide +kernel⟩

/-- A string with a reference that has a second command in it. -/
def secondCommand : Units := ascii "\x7b\x7bsecret:pass:mail; id\x7d\x7d"

/-- A string with a reference that is a replacement pattern. -/
def replacementPattern : Units := ascii "\x7b\x7bsecret:pass:$&\x7d\x7d"

/-- A reference can hand the shell a second command, or be expanded as a replacement pattern. -/
theorem reference_reaches_shell :
    Resolvers.empty.addSecretResolver (ascii "pass") passCommand = .ok passResolvers ∧
    (resolveSecrets passResolvers (fun _ => some []) secondCommand).invocations =
      [⟨passCommand, ascii "mail; id", ascii "pass show mail; id"⟩] ∧
    (resolveSecrets passResolvers (fun _ => some []) replacementPattern).invocations =
      [⟨passCommand, ascii "$&", passCommand⟩] ∧
    ¬ RunsOnlyConfigured passResolvers (fun _ => some []) secondCommand ∧
    ¬ RunsOnlyConfigured passResolvers (fun _ => some []) replacementPattern := by
  have second : (resolveSecrets passResolvers (fun _ => some []) secondCommand).invocations =
      [⟨passCommand, ascii "mail; id", ascii "pass show mail; id"⟩] := by decide +kernel
  have pattern : (resolveSecrets passResolvers (fun _ => some []) replacementPattern).invocations =
      [⟨passCommand, ascii "$&", passCommand⟩] := by decide +kernel
  refine ⟨?_, second, pattern, fun only => ?_, fun only => ?_⟩
  · obtain ⟨next, added, entries⟩ := @addSecretResolver_ok Resolvers.empty (ascii "pass")
      passCommand (by decide +kernel)
    rw [added]
    cases next
    simp only at entries
    subst entries
    rfl
  · have simple := (only ⟨passCommand, ascii "mail; id", ascii "pass show mail; id"⟩
      (by rw [second]; simp)).simple
    exact absurd simple (by decide +kernel)
  · have literal := (only ⟨passCommand, ascii "$&", passCommand⟩ (by rw [pattern]; simp)).literal
    exact absurd literal (by decide +kernel)

end Secrets

end Klura
