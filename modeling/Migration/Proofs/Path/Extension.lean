import Migration.Changelog.Build
import Migration.Proofs.Path.Directory

/-!
# The extension of scripts

A listing and an inclusion take a file only if its path is that of a script.  The main statement,
`isScript_below_iff`, says for which names of files the directory has no say in that: for all but
those that are nothing but the extension.  Such a name counts in every directory, and counts for
nothing where it stands alone.
-/

namespace Migration

namespace Path

variable {directory name : String}

/-- Below a directory a name counts as that of a script as it does alone, exactly if it is not
nothing but the extension.  Whether a listing admits such a file, and whether an inclusion goes on to
build it or refuses it, is then decided by the name, and in a listing by the filter that it is
given. -/
theorem isScript_below_iff (closed : directory.toList.getLast? = some '/') (name : String) :
    (isScript (directory ++ name) = isScript name ↔ isBareExtension name = false) ∧
    (isBareExtension name = false →
      (∀ options : Listing.Options, Listing.admits options (directory ++ name) =
        (isScript name && options.accepts.all (· (directory ++ name)))) ∧
      ∀ (load : String → Build Changelog) (log : Changelog) (inclusion : Inclusion),
        (isScript name = true → Changelog.includeFile load log (directory ++ name) inclusion =
          load (directory ++ name) >>= fun child => pure (log.splice { child with inclusion })) ∧
        (isScript name = false → Changelog.includeFile load log (directory ++ name) inclusion =
          .ofExcept (.error (.resource (directory ++ name) .notScript)))) := by
  have below : isScript (directory ++ name) = (isScript name || isBareExtension name) :=
    isScript_append_of_closed closed
  constructor
  · -- a bare extension alone is no script, so that the two disagree on it
    have alone : isBareExtension name = true → isScript name = false := isScript_of_isBareExtension
    rw [below]
    cases bare : isBareExtension name with
    | false => simp
    | true => simp [alone bare]
  · intro notBare
    rw [notBare, Bool.or_false] at below
    refine ⟨fun options => ?_, fun load log inclusion => ⟨fun script => ?_, fun other => ?_⟩⟩
    · rw [Listing.admits, below]
      cases options.accepts <;> rfl
    · rw [Changelog.includeFile, below, if_pos script]
    · rw [Changelog.includeFile, below, other, if_neg Bool.false_ne_true]

/-- A script in a directory whose own name has points, one of them before the extension. -/
theorem isScript_below_dotted :
    "db/v1.qcl/".toList.getLast? = some '/' ∧ isBareExtension "a.b.QCL" = false ∧
    isScript ("db/v1.qcl/" ++ "a.b.QCL") = isScript "a.b.QCL" ∧
    Listing.admits {} ("db/v1.qcl/" ++ "a.b.QCL") = true := by
  have closed : "db/v1.qcl/".toList.getLast? = some '/' := by decide
  have notBare : isBareExtension "a.b.QCL" = false := by decide
  obtain ⟨same, taken⟩ := isScript_below_iff closed "a.b.QCL"
  refine ⟨closed, notBare, same.mpr notBare, ?_⟩
  rw [(taken notBare).1]
  decide

/-- A name that is nothing but the extension counts in a directory, and alone it does not. -/
theorem not_isScript_below :
    ¬ ∀ directory name : String, directory.toList.getLast? = some '/' →
      (∀ c ∈ name.toList, isSeparator c = false) →
      isScript (directory ++ name) = isScript name :=
  fun claimed =>
    have apart : ∀ c ∈ ".qcl".toList, isSeparator c = false := by simp [isSeparator]
    absurd (claimed "d/" ".qcl" (by decide) apart) (by decide)

end Path

end Migration
