import Klura.Contracts.Stored
import Klura.Execution.Placeholders
import Klura.Library.Substitution

/-! The commands that resolve secrets: how they are configured, and how a reference is filled in. -/

namespace Klura

namespace Secrets

/-- Whether a unit is one of those that a command template may not have. -/
def isShellMetachar (unit : UInt16) : Bool :=
  (ascii "|;&" ++ [96] ++ ascii "$()<>" ++ [10, 13]).contains unit

/-- Whether a text has what a command template may not have. -/
def hasShellMetachar (text : Units) : Bool :=
  text.any isShellMetachar || includes text (ascii "$(") || includes text (ascii "&&")
    || includes text (ascii "||")

/-- Whether a text is the scheme of a reference. -/
def isValidSecretReferenceScheme (scheme : Units) : Bool :=
  scheme ≠ [] && scheme.all isSchemeUnit

/-- What a resolver is refused for. -/
inductive SecretResolverError where
  | emptyScheme
  | longScheme (length : Nat)
  | invalidScheme (scheme : Units)
  | emptyCommand
  | longCommand (length : Nat)
  | shellMetachar
  deriving DecidableEq

/-- Whether a scheme and a command make a resolver. -/
def checkResolver (scheme command : Units) : Except SecretResolverError Unit :=
  if scheme = [] then .error .emptyScheme
  else if scheme.length > 64 then .error (.longScheme scheme.length)
  else if !isValidSecretReferenceScheme scheme then .error (.invalidScheme scheme)
  else if command = [] then .error .emptyCommand
  else if command.length > 2000 then .error (.longCommand command.length)
  else if hasShellMetachar command then .error .shellMetachar
  else .ok ()

/-- The configured resolvers, each of which was checked. -/
structure Resolvers where
  entries : OrderedMap Units Units
  checked : ∀ entry ∈ entries, checkResolver entry.1 entry.2 = .ok ()

namespace Resolvers

/-- No resolver. -/
def empty : Resolvers := ⟨[], by simp⟩

/-- Adds a resolver, or replaces the one of its scheme. -/
def addSecretResolver (resolvers : Resolvers) (scheme command : Units) :
    Except SecretResolverError Resolvers :=
  match accepted : checkResolver scheme command with
  | .error error => .error error
  | .ok () => .ok
    { entries := OrderedMap.set resolvers.entries scheme command
      checked := by
        intro entry member
        rcases OrderedMap.mem_of_mem_set member with new | old
        · rw [new]
          exact accepted
        · exact resolvers.checked entry old }

end Resolvers

/-- Why a secret is not resolved. -/
inductive SecretError where
  | unknownScheme (scheme : Units)
  /-- What an object inherits under the scheme's name is no text. -/
  | notACommand
  | failed (scheme : Units)
  deriving DecidableEq

/-- The place of the reference in a command template. -/
def REF_PLACEHOLDER : Units := ascii "\x7b\x7bref\x7d\x7d"

/-- The command of a template for a reference. -/
def commandOf (template ref : Units) : Units := substituteAll template REF_PLACEHOLDER ref

/-- A command that was handed to the shell, with the template and the reference it was made from. -/
structure Invocation where
  template : Units
  ref : Units
  command : Units
  deriving DecidableEq

/-- What the shell prints for a command, none where it fails. -/
abbrev Shell : Type := Units → Option Units

/-- What resolving comes to, and the commands that were handed to the shell meanwhile. -/
structure Resolution where
  result : Except SecretError Units
  invocations : List Invocation

/-- A text without the line break at its end. -/
def stripNewline (text : Units) : Units := if text.getLast? = some 10 then text.dropLast else text

/-- The members that every object inherits. -/
def objectPrototypeMembers : List Units :=
  [ascii "constructor", ascii "__defineGetter__", ascii "__defineSetter__", ascii "hasOwnProperty",
    ascii "__lookupGetter__", ascii "__lookupSetter__", ascii "isPrototypeOf",
    ascii "propertyIsEnumerable", ascii "toString", ascii "valueOf", ascii "__proto__",
    ascii "toLocaleString"]

/-- Resolves a secret by the command of its scheme. -/
def resolveSecret (resolvers : Resolvers) (shell : Shell) (scheme ref : Units) : Resolution :=
  match OrderedMap.get? resolvers.entries scheme with
  | none =>
    ⟨.error (if scheme ∈ objectPrototypeMembers then .notACommand else .unknownScheme scheme), []⟩
  | some template =>
    let command := commandOf template ref
    match shell command with
    | some output => ⟨.ok (stripNewline output), [⟨template, ref, command⟩]⟩
    | none => ⟨.error (.failed scheme), [⟨template, ref, command⟩]⟩

/-- Resolves the references in a string from left to right, once what is left of one is skipped. -/
def resolveFrom (resolvers : Resolvers) (shell : Shell) : Nat → Units → Resolution
  | _, [] => ⟨.ok [], []⟩
  | skip + 1, _ :: rest => resolveFrom resolvers shell skip rest
  | 0, unit :: rest =>
    match secretReference (unit :: rest) with
    | none =>
      let later := resolveFrom resolvers shell 0 rest
      ⟨later.result.map fun text => unit :: text, later.invocations⟩
    | some (scheme, ref) =>
      let here := resolveSecret resolvers shell scheme ref
      match here.result with
      | .error error => ⟨.error error, here.invocations⟩
      | .ok secret =>
        let later := resolveFrom resolvers shell
          (SECRET_MARKER.length + scheme.length + ref.length + 2) rest
        ⟨later.result.map fun text => secret ++ text, here.invocations ++ later.invocations⟩

/-- Resolves the references in a string. -/
def resolveSecrets (resolvers : Resolvers) (shell : Shell) (text : Units) : Resolution :=
  resolveFrom resolvers shell 0 text

end Secrets

end Klura
