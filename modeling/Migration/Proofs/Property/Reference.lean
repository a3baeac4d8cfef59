import Mathlib
import Migration.Declaration.Call
import Migration.Proofs.Property.Piece
import Migration.Proofs.Script.Layout

/-!
# Bare names and tokens

A property is asked for by its bare name or by a token in a text.  A bare name is looked up before the
first pass of substitution, while a token that is a whole text takes the first pass for its look-up.
The main statement, `resolve_reference_eq_iff`, says that a bare name has the value that the token has
where one pass more may be made, so that the two agree exactly if the passes suffice.
-/

namespace Migration

/-! ## Names that are property names -/

namespace Script

theorem isNameChar_of_isNameStart {c : Char} (start : isNameStart c = true) :
    isNameChar c = true := by
  simp only [isNameStart, isNameChar, Char.isAlphanum, Bool.or_eq_true, decide_eq_true_eq] at start ⊢
  tauto

/-- The characters of names lie between the point and the last small letter. -/
theorem toNat_of_isNameChar {c : Char} (isPart : isNameChar c = true) :
    46 ≤ c.toNat ∧ c.toNat ≤ 122 := by
  simp only [isNameChar, Char.isAlphanum, Char.isAlpha, Char.isUpper, Char.isLower, Char.isDigit,
    Bool.or_eq_true, Bool.and_eq_true, decide_eq_true_eq, UInt32.le_iff_toNat_le, ge_iff_le] at isPart
  have same : c.toNat = c.val.toNat := rfl
  rcases isPart with (alphanumeric | rfl) | rfl
  · simp only [same]
    simp at alphanumeric
    omega
  · decide
  · decide

theorem not_isBlank_of_isNameChar {c : Char} (isPart : isNameChar c = true) :
    Text.isBlank c = false := by
  obtain ⟨low, high⟩ := toNat_of_isNameChar isPart
  exact Text.isBlank_eq_false (by omega) (by omega)

theorem property_isNameChar {c : Char} (isPart : isNameChar c = true) :
    Property.isNameChar c = true := by
  have inside := toNat_of_isNameChar isPart
  simp only [Property.isNameChar, Bool.and_eq_true, decide_eq_true_eq]
  refine ⟨⟨?_, ?_⟩, ?_⟩ <;>
    · rintro rfl
      revert inside
      decide

theorem IsName.forall_mem {name : List Char} (isName : IsName name) :
    ∀ c ∈ name, isNameChar c = true := by
  obtain ⟨start, others⟩ := isName
  exact List.forall_mem_cons.mpr ⟨isNameChar_of_isNameStart start, others⟩

theorem IsName.isTokenName {name : List Char} (isName : IsName name) :
    Property.IsTokenName name where
  left := by
    cases isName
    exact List.cons_ne_nil _ _
  right c member := property_isNameChar (isName.forall_mem c member)

/-- A name asks for the property of that very name. -/
theorem IsName.key_eq {name : String} (isName : IsName name.toList) :
    Property.key name.toList = name := by
  rw [Property.key, Text.trim_of_not_isBlank, String.ofList_toList]
  exact fun c member => not_isBlank_of_isNameChar (isName.forall_mem c member)

end Script

/-! ## One pass more -/

/-- A text that is a token gives way to the value of its name. -/
theorem Property.substitute_source {value? : String → Option String} {name : List Char}
    {value : String} (isName : IsTokenName name) (known : value? (key name) = some value) :
    substitute value? (Piece.token name).source = value.toList := by
  have made : IsMadeOf (Piece.token name).source [.token name] :=
    ⟨List.forall_mem_singleton.mpr isName, by simp⟩
  rw [substitute, made.pieces_eq]
  simp [Piece.substitute, known]

namespace PropertyTable

variable {table : PropertyTable} {name changelog : String}

/-- A table with which one pass more may be made. -/
def withPass (table : PropertyTable) : PropertyTable :=
  { table with maxPasses := table.passes + 1 }

/-- Whether the passes that may be made suffice for a text: in its expansion, no token gives way to
another text any more. -/
def IsSettled (table : PropertyTable) (text changelog : String) : Prop :=
  Property.substitute (fun name => table.resolve name changelog)
    (table.expand text changelog).toList = (table.expand text changelog).toList

/-- The text that is nothing but the token of a name. -/
def tokenOf (name : String) : String :=
  r"${" ++ name ++ r"}"

theorem toList_tokenOf (name : String) :
    (tokenOf name).toList = (Property.Piece.token name.toList).source := by
  simp [tokenOf, Property.Piece.source]

theorem passes_withPass (table : PropertyTable) : table.withPass.passes = table.passes + 1 := by
  simp [withPass, passes]

/-- The pass more is made after the others. -/
theorem toList_expand_withPass (table : PropertyTable) (text changelog : String) :
    (table.withPass.expand text changelog).toList =
      Property.substitute (fun name => table.resolve name changelog)
        (table.expand text changelog).toList := by
  rw [toList_expand, passes_withPass, Function.iterate_succ_apply', toList_expand]
  rfl

/-- The value of a name is expanded as its token is with one pass more. -/
theorem expand_tokenOf {value : String} (isName : Script.IsName name.toList)
    (known : table.resolve name changelog = some value) :
    table.expand value changelog = table.withPass.expand (tokenOf name) changelog := by
  have looked : (fun name => table.resolve name changelog) (Property.key name.toList) =
      some value := by
    rw [isName.key_eq]
    exact known
  apply String.toList_inj.mp
  rw [toList_expand, toList_expand, passes_withPass, Function.iterate_succ_apply, toList_tokenOf]
  exact congrArg _ (Property.substitute_source isName.isTokenName looked).symm

end PropertyTable

namespace Site

/-- A bare name with a value has the text that its token has where one pass more may be made, and so it
has the value of the token itself exactly if the passes suffice for the token. -/
theorem resolve_reference_eq_iff (site : Site) {name value : String}
    (isName : Script.IsName name.toList)
    (known : site.properties.resolve name site.path = some value) :
    site.resolve (.reference name) =
        .ok (.text (site.properties.withPass.expand (PropertyTable.tokenOf name) site.path)) ∧
      (site.resolve (.reference name) = site.resolve (.str (PropertyTable.tokenOf name)) ↔
        site.properties.IsSettled (PropertyTable.tokenOf name) site.path) := by
  have same : site.resolve (.reference name) =
      .ok (.text (site.properties.withPass.expand (PropertyTable.tokenOf name) site.path)) := by
    rw [resolve, known, ← PropertyTable.expand_tokenOf isName known]
    rfl
  refine ⟨same, ?_⟩
  rw [same, resolve, expand, PropertyTable.IsSettled, ← PropertyTable.toList_expand_withPass,
    String.toList_inj]
  simp

/-! ## A chain that one pass does not expand -/

/-- A table with one pass, in which the value of one property names another one. -/
def shortTable : PropertyTable where
  entries := [
    { name := "table", value := "${schema}.t", changelog := "a" },
    { name := "schema", value := "app", changelog := "a" }]
  maxPasses := 1

def shortSite : Site where
  properties := shortTable
  path := "a"

/-- The bare name of the first property is expanded in full, which its token is not.  The bare name of
the second one has the value of its token. -/
theorem resolve_shortSite :
    Script.IsName "table".toList ∧ Script.IsName "schema".toList ∧
      shortSite.properties.resolve "table" shortSite.path = some "${schema}.t" ∧
      shortSite.properties.resolve "schema" shortSite.path = some "app" ∧
      shortSite.resolve (.reference "table") = .ok (.text "app.t") ∧
      shortSite.resolve (.reference "table") ≠
        shortSite.resolve (.str (PropertyTable.tokenOf "table")) ∧
      shortSite.resolve (.reference "schema") =
        shortSite.resolve (.str (PropertyTable.tokenOf "schema")) := by
  have isTable : Script.IsName "table".toList :=
    .intro (by decide) (List.all_eq_true.mp (by decide))
  have isSchema : Script.IsName "schema".toList :=
    .intro (by decide) (List.all_eq_true.mp (by decide))
  have table : shortSite.properties.resolve "table" shortSite.path =
      some "${schema}.t" := by decide
  have schema : shortSite.properties.resolve "schema" shortSite.path = some "app" := by decide
  have expanded : shortTable.withPass.expand (PropertyTable.tokenOf "table") "a" = "app.t" := by
    decide +kernel
  have unsettled : ¬ shortTable.IsSettled (PropertyTable.tokenOf "table") "a" := by
    unfold PropertyTable.IsSettled
    decide +kernel
  have settled : shortTable.IsSettled (PropertyTable.tokenOf "schema") "a" := by
    unfold PropertyTable.IsSettled
    decide +kernel
  obtain ⟨value, agrees⟩ := resolve_reference_eq_iff shortSite isTable table
  refine ⟨isTable, isSchema, table, schema, value.trans ?_, fun same => unsettled (agrees.mp same),
    (resolve_reference_eq_iff shortSite isSchema schema).2.mpr settled⟩
  exact congrArg (fun text => Except.ok (Value.text text)) expanded

/-- A bare name need not have the value of its token. -/
theorem not_resolve_reference_eq :
    ¬ ∀ (site : Site) (name value : String), Script.IsName name.toList →
      site.properties.resolve name site.path = some value →
      site.resolve (.reference name) = site.resolve (.str (PropertyTable.tokenOf name)) := by
  intro agree
  have known : shortSite.properties.resolve "table" shortSite.path =
      some "${schema}.t" := by decide
  have same := agree shortSite "table" _ (.intro (by decide) (List.all_eq_true.mp (by decide))) known
  have bare : shortSite.expand "${schema}.t" = "app.t" := by decide +kernel
  have token : shortSite.expand (PropertyTable.tokenOf "table") = "${schema}.t" := by
    decide +kernel
  rw [resolve, resolve, known, token] at same
  dsimp only at same
  rw [bare] at same
  simp at same

end Site

end Migration
