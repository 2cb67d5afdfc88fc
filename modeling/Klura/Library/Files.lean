import Klura.Library.Decimal
import Mathlib.Logic.Function.Basic
import Mathlib.Data.List.Infix

/-! Files under names, the ways they are written, and what a crash may leave of a write. -/

namespace Klura

variable {κ : Type} [DecidableEq κ]

/-- The contents of the files that a directory holds. -/
abbrev Files (κ : Type) : Type := κ → Option Bytes

/-- One durable change of a directory. -/
inductive FileWrite (κ : Type) where
  /-- Nothing is changed. -/
  | keep
  /-- A file is created under its own name and then filled. -/
  | writeExclusive (name : κ) (bytes : Bytes)
  /-- A file is written beside and then renamed to its name. -/
  | writeAtomic (name : κ) (bytes : Bytes)
  /-- A file is removed. -/
  | unlink (name : κ)

namespace FileWrite

/-- The files after a change is made in full. -/
def apply (write : FileWrite κ) (files : Files κ) : Files κ :=
  match write with
  | .keep => files
  | .writeExclusive name bytes | .writeAtomic name bytes => Function.update files name (some bytes)
  | .unlink name => Function.update files name none

/-- Whether a crash has left a file that was created and not yet filled. -/
def Torn (write : FileWrite κ) (files after : Files κ) : Prop :=
  match write with
  | .writeExclusive name bytes =>
    ∃ part, part <+: bytes ∧ part ≠ bytes ∧ after = Function.update files name (some part)
  | _ => False

/-- What a crash may leave while a change is being made. -/
def Interrupted (write : FileWrite κ) (files after : Files κ) : Prop :=
  after = files ∨ after = write.apply files ∨ write.Torn files after

/-- The name that a change is about, when it is about one. -/
def target : FileWrite κ → Option κ
  | .keep => none
  | .writeExclusive name _ | .writeAtomic name _ | .unlink name => some name

/-- A change leaves the files under other names as they are. -/
theorem apply_of_ne {write : FileWrite κ} {files : Files κ} {name : κ}
    (other : write.target ≠ some name) : write.apply files name = files name := by
  cases write with
  | keep => rfl
  | writeExclusive target bytes =>
    exact Function.update_of_ne (fun same => other (congrArg some same.symm)) _ _
  | writeAtomic target bytes =>
    exact Function.update_of_ne (fun same => other (congrArg some same.symm)) _ _
  | unlink target => exact Function.update_of_ne (fun same => other (congrArg some same.symm)) _ _

end FileWrite

end Klura
