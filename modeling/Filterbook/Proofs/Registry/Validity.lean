import Filterbook.Proofs.Text.Split
import Filterbook.Registry.Validation

/-!
# What a checked registry promises

The check of a registry gathers errors, model by model and field by field. This module says what a
registry without errors is like (`Registry.Valid`), in words that do not mention the check: names that
can be told apart from paths and from the mark of a separator, relations that lead somewhere, values
and exposed paths that are declared once, and exposed paths that name scalar fields. The check accepts
these registries and no others (`Registry.validate_eq_ok_iff`).
-/

namespace Filterbook

/-! ### Repetitions -/

theorem repeats_cons_eq_nil_iff {seen ss : List String} {s : String} :
    repeats seen (s :: ss) = [] ↔ s ∉ seen ∧ repeats (s :: seen) ss = [] := by
  rw [repeats]
  split
  · next hs => simp [List.contains_iff_mem.mp hs]
  · next hs => simp [mt List.contains_iff_mem.mpr hs]

theorem repeats_eq_nil_iff {seen ss : List String} :
    repeats seen ss = [] ↔ (∀ s ∈ ss, s ∉ seen) ∧ ss.Nodup := by
  induction ss generalizing seen with
  | nil => simp [repeats]
  | cons s ss ih =>
    rw [repeats_cons_eq_nil_iff, ih, List.forall_mem_cons, List.nodup_cons]
    constructor
    · rintro ⟨hseen, hnew, hnodup⟩
      refine ⟨⟨hseen, fun t ht hmem => ?_⟩, fun hmem => ?_, hnodup⟩
      · exact hnew t ht (List.mem_cons_of_mem s hmem)
      · exact hnew s hmem (List.mem_cons_self ..)
    · rintro ⟨⟨hseen, hnew⟩, hfirst, hnodup⟩
      refine ⟨hseen, fun t ht hmem => ?_, hnodup⟩
      rcases List.mem_cons.mp hmem with rfl | hmem
      · exact hfirst ht
      · exact hnew t ht hmem

theorem repeats_nil_eq_nil_iff {ss : List String} : repeats [] ss = [] ↔ ss.Nodup := by
  simp [repeats_eq_nil_iff]

/-! ### Fields -/

namespace Field

/-- What a checked registry promises of a field. -/
structure Valid (r : Registry) (f : Field) : Prop where
  /-- The field has a name. -/
  name_ne : f.name ≠ ""
  /-- The name does not hold the mark between the segments of a path. -/
  no_mark : ¬ pathSeparator.toList <:+: f.name.toList
  /-- The name is not the mark of a separator. -/
  not_reserved : f.name ≠ separatorText
  /-- A relation leads to a registered model. -/
  target : ∀ target, f.type = .relation target → r.contains target = true
  /-- A relation has no fixed values. -/
  no_choices : f.isRelation = true → f.choices = []
  /-- No fixed value is declared twice. -/
  choices_nodup : (f.choices.map (·.value)).Nodup

theorem nameFault?_eq_none_iff {f : Field} :
    f.nameFault? = none ↔
      f.name ≠ "" ∧ ¬ pathSeparator.toList <:+: f.name.toList ∧ f.name ≠ separatorText := by
  rw [nameFault?, ← Text.contains_iff]
  split
  · next hname => exact iff_of_false nofun fun h => h.1 hname
  · next hname =>
    split
    · next hmark => exact iff_of_false nofun fun h => h.2.1 hmark
    · next hmark =>
      split
      · next hreserved => exact iff_of_false nofun fun h => h.2.2 hreserved
      · next hreserved => exact iff_of_true rfl ⟨hname, hmark, hreserved⟩

theorem relationFaults_eq_nil_iff {r : Registry} {f : Field} :
    f.relationFaults r = [] ↔
      (∀ target, f.type = .relation target → r.contains target = true) ∧
        (f.isRelation = true → f.choices = []) := by
  unfold relationFaults isRelation
  cases f.type with
  | scalar kind => simp [FieldType.model?]
  | relation target => simp [FieldType.model?]

/-- A field has no errors exactly when it is valid. -/
theorem errors_eq_nil_iff {r : Registry} {model : String} {f : Field} :
    f.errors r model = [] ↔ f.Valid r := by
  rw [errors, List.append_eq_nil_iff, List.map_eq_nil_iff, List.append_eq_nil_iff,
    Option.toList_eq_nil_iff, nameFault?_eq_none_iff, relationFaults_eq_nil_iff,
    List.map_eq_nil_iff, repeats_nil_eq_nil_iff]
  constructor
  · rintro ⟨⟨⟨hname, hmark, hreserved⟩, htarget, hchoices⟩, hnodup⟩
    exact ⟨hname, hmark, hreserved, htarget, hchoices, hnodup⟩
  · rintro ⟨hname, hmark, hreserved, htarget, hchoices, hnodup⟩
    exact ⟨⟨⟨hname, hmark, hreserved⟩, htarget, hchoices⟩, hnodup⟩

end Field

/-! ### Models -/

namespace Model

/-- What a checked registry promises of a model. -/
structure Valid (r : Registry) (m : Model) : Prop where
  /-- The model has a name. -/
  name_ne : m.name ≠ ""
  /-- The model has a field. -/
  fields_ne : m.fields.entries ≠ []
  /-- Its fields are valid. -/
  fields : ∀ f ∈ m.fields.entries, f.Valid r
  /-- No path is exposed twice. -/
  paths_nodup : (m.filterFields.map (·.path)).Nodup
  /-- Every exposed path names a scalar field. -/
  paths_resolve : ∀ f ∈ m.filterFields, ∃ field, r.resolve m.name f.path = .ok field

theorem pathErrors_eq_nil_iff {r : Registry} {model : String} {seen : List String}
    {fs : List FilterField} :
    pathErrors r model seen fs = [] ↔
      repeats seen (fs.map (·.path)) = [] ∧
        ∀ f ∈ fs, ∃ field, r.resolve model f.path = .ok field := by
  induction fs generalizing seen with
  | nil => simp [pathErrors, repeats]
  | cons f fs ih =>
    have hseen : (if seen.contains f.path then
        [RegistryError.duplicate "filter field" f.path] else []) = [] ↔ f.path ∉ seen := by simp
    rw [pathErrors, List.append_eq_nil_iff, List.append_eq_nil_iff, hseen, ih, List.map_cons,
      repeats_cons_eq_nil_iff, List.forall_mem_cons]
    cases r.resolve model f.path with
    | ok field => simp [and_assoc]
    | error e => simp

/-- A model has no errors exactly when it is valid. -/
theorem errors_eq_nil_iff {r : Registry} {m : Model} : m.errors r = [] ↔ m.Valid r := by
  have hname : (if m.name = "" then [RegistryError.invalidModel "" .unnamed] else []) = [] ↔
      m.name ≠ "" := by simp
  have hfields : (if m.fields.entries.isEmpty then
      [RegistryError.invalidModel m.name .noFields] else []) = [] ↔ m.fields.entries ≠ [] := by simp
  rw [errors, List.append_eq_nil_iff, List.append_eq_nil_iff, List.append_eq_nil_iff, hname, hfields,
    List.flatMap_eq_nil_iff, pathErrors_eq_nil_iff, repeats_nil_eq_nil_iff]
  simp only [Field.errors_eq_nil_iff]
  constructor
  · rintro ⟨⟨⟨hname, hne⟩, hvalid⟩, hnodup, hresolve⟩
    exact ⟨hname, hne, hvalid, hnodup, hresolve⟩
  · rintro ⟨hname, hne, hvalid, hnodup, hresolve⟩
    exact ⟨⟨⟨hname, hne⟩, hvalid⟩, hnodup, hresolve⟩

end Model

/-! ### Registries -/

namespace Registry

/-- What a checked registry promises. -/
def Valid (r : Registry) : Prop := ∀ m ∈ r.models.entries, m.Valid r

/-- **The check accepts exactly the valid registries**, and gives them back as they are. -/
theorem validate_eq_ok_iff {r r' : Registry} : r.validate = .ok r' ↔ r.Valid ∧ r = r' := by
  have herrors : r.errors = [] ↔ r.Valid := by
    simp only [errors, List.flatMap_eq_nil_iff, Model.errors_eq_nil_iff, Valid]
  rw [validate, ← herrors]
  cases r.errors <;> simp

end Registry

end Filterbook
