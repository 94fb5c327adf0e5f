import Filterbook.Proofs.Json.Reading
import Filterbook.Registry.Validation

/-!
# Registries read back from Json

A registry that is written as Json text is read back from it as it was: the same models in the same
order, each with the same fields in the same order. The Json form leaves out what a record does not
have, tells the type of a field by one of two members beside the others, and holds the models and the
fields as lists; each reader makes up for what its writer did, so the records are read back one inside
the other.

## What is proved

* `Field.ofJson?_toJson`, `Model.ofJson?_toJson`, `Registry.ofJson?_toJson`: each record is read back
  from its Json form.
* `Registry.ofJsonText_text_toJson`: a registry is read back from its Json text.
-/

namespace Filterbook

open Json

/-! ### Names -/

theorem Kind.ofName?_name (kind : Kind) : Kind.ofName? kind.name = some kind := by
  cases kind <;> rfl

theorem Modifier.ofName?_name (m : Modifier) : Modifier.ofName? m.name = some m := by
  cases m <;> rfl

/-! ### Members -/

namespace Json

section Members

variable {α : Type} {members : List (String × Json)} {name : String}

theorem required_of_lookup {j : Json} (h : members.lookup name = some j) (read? : Json → Option α) :
    required members name read? = read? j := by
  rw [required, h]
  rfl

theorem defaulted_of_lookup {j : Json} (h : members.lookup name = some j) (read? : Json → Option α)
    (value : α) : defaulted members name read? value = read? j := by
  rw [defaulted, h]

/-- A text that is left out when there is none. -/
theorem optional_of_lookup {s? : Option String} (h : members.lookup name = s?.map .str) :
    optional members name text? = some s? := by
  rw [optional, h]
  cases s? <;> rfl

variable {toJson : α → Json} {read? : Json → Option α}

/-- A list is read back when its items are. -/
theorem list?_map_of_mem {items : List α} (h : ∀ a ∈ items, read? (toJson a) = some a) :
    list? read? (.arr (items.map toJson)) = some items := by
  show (items.map toJson).mapM read? = some items
  induction items with
  | nil => rfl
  | cons a items ih =>
    rw [List.forall_mem_cons] at h
    rw [List.map_cons, List.mapM_cons, h.1, ih h.2]
    rfl

variable (hread : ∀ a, read? (toJson a) = some a)

include hread

theorem list?_map (items : List α) : list? read? (.arr (items.map toJson)) = some items :=
  list?_map_of_mem fun a _ => hread a

/-- A list that is left out when it is empty. -/
theorem defaulted_list {items : List α}
    (h : members.lookup name = if items.isEmpty then none else some (.arr (items.map toJson))) :
    defaulted members name (list? read?) [] = some items := by
  cases items with
  | nil => rw [defaulted, h]; rfl
  | cons a items => rw [defaulted_of_lookup h, list?_map hread]

end Members

end Json

/-! ### Records -/

theorem Choice.ofJson?_toJson (c : Choice) : Choice.ofJson? c.toJson = some c := rfl

theorem FilterField.ofJson?_toJson (f : FilterField) : FilterField.ofJson? f.toJson = some f := by
  obtain ⟨path, label?⟩ := f
  cases label? <;> rfl

/-- The first member that tells a type tells the one written. -/
theorem FieldType.ofMembers?_toMember (type : FieldType) (members : List (String × Json)) :
    FieldType.ofMembers? (type.toMember :: members) = some type := by
  cases type with
  | scalar kind =>
    show (Kind.ofName? kind.name).map scalar = some (scalar kind)
    rw [Kind.ofName?_name]
    rfl
  | relation model => rfl

namespace Field

/-- The members that are written of a field, as its reader finds them. -/
theorem members_toJson (f : Field) :
    ∃ members known, f.toJson = .obj members ∧
      Shape.members? ⟨["name", "verbose_name", "modifier", "choices"], 0, false⟩ (.obj members) =
        some known ∧
      FieldType.ofMembers? members = some f.type ∧
      known.lookup "name" = some (.str f.name) ∧
      known.lookup "verbose_name" = f.verboseName?.map .str ∧
      known.lookup "modifier" = some (.str f.modifier.name) ∧
      known.lookup "choices" =
        if f.choices.isEmpty then none else some (.arr (f.choices.map Choice.toJson)) := by
  obtain ⟨name, verboseName?, type, modifier, choices⟩ := f
  have htype : FieldType.ofMembers?
      (("name", Json.str name) :: (verboseName?.toList.map fun s => ("verbose_name", Json.str s)) ++
        type.toMember :: ("modifier", Json.str modifier.name) ::
        (if choices.isEmpty then [] else [("choices", Json.arr (choices.map Choice.toJson))])) =
      some type := by
    cases verboseName? <;> exact FieldType.ofMembers?_toMember type _
  -- what the field has decides which members there are, and then their names decide the rest
  cases verboseName? <;> cases type <;> cases choices <;>
    exact ⟨_, _, rfl, rfl, htype, rfl, rfl, rfl, rfl⟩

theorem ofJson?_toJson (f : Field) : Field.ofJson? f.toJson = some f := by
  obtain ⟨members, known, hjson, hknown, htype, hname, hverbose, hmodifier, hchoices⟩ :=
    f.members_toJson
  have hmodifier' : defaulted known "modifier" (fun v => v.choice?.bind Modifier.ofName?) .required =
      some f.modifier :=
    (defaulted_of_lookup hmodifier _ _).trans (Modifier.ofName?_name f.modifier)
  rw [hjson, ofJson?, hknown]
  simp only [Option.bind_eq_bind, Option.bind_some, required_of_lookup hname, text?,
    optional_of_lookup hverbose, htype, hmodifier', defaulted_list Choice.ofJson?_toJson hchoices]

end Field

namespace Model

/-- The members that are written of a model, as its reader finds them. -/
theorem members_toJson (m : Model) :
    ∃ known, Shape.members? ⟨["name", "verbose_name", "fields", "filter_fields"], 1, false⟩ m.toJson =
        some known ∧
      known.lookup "name" = some (.str m.name) ∧
      known.lookup "verbose_name" = m.verboseName?.map .str ∧
      known.lookup "fields" = some (.arr (m.fields.entries.map Field.toJson)) ∧
      known.lookup "filter_fields" =
        if m.filterFields.isEmpty then none
        else some (.arr (m.filterFields.map FilterField.toJson)) := by
  obtain ⟨name, verboseName?, fields, filterFields⟩ := m
  cases verboseName? <;> cases filterFields <;> exact ⟨_, rfl, rfl, rfl, rfl, rfl⟩

theorem ofJson?_toJson (m : Model) : Model.ofJson? m.toJson = some m := by
  obtain ⟨known, hknown, hname, hverbose, hfields, hpaths⟩ := m.members_toJson
  have hfields' : defaulted known "fields" (list? Field.ofJson?) [] = some m.fields.entries :=
    (defaulted_of_lookup hfields _ _).trans (list?_map Field.ofJson?_toJson m.fields.entries)
  rw [ofJson?, hknown]
  simp only [Option.bind_eq_bind, Option.bind_some, required_of_lookup hname, text?,
    optional_of_lookup hverbose, hfields', defaulted_list FilterField.ofJson?_toJson hpaths,
    Roster.ofList_entries]

end Model

namespace Registry

theorem ofJson?_toJson (r : Registry) : Registry.ofJson? r.toJson = some r := by
  have hmodels : list? Model.ofJson? (.arr (r.models.entries.map Model.toJson)) =
      some r.models.entries := list?_map Model.ofJson?_toJson r.models.entries
  show (list? Model.ofJson? (.arr (r.models.entries.map Model.toJson))).bind
    (fun models => some (Registry.mk (.ofList models))) = some r
  rw [hmodels]
  show some (Registry.mk (.ofList r.models.entries)) = some r
  rw [Roster.ofList_entries]

end Registry

/-! ### Texts -/

section Texts

variable {depth : Nat}

/-- A member that is left out when there is no text for it. -/
theorem readable_optional (name : String) (s? : Option String) :
    ∀ m ∈ s?.toList.map fun s => (name, Json.str s), Readable depth m.2 := by
  intro m hm
  obtain ⟨s, -, rfl⟩ := List.mem_map.mp hm
  exact .str s

theorem readable_list {α : Type} {toJson : α → Json} (h : ∀ a, Readable depth (toJson a))
    (items : List α) : Readable (depth + 1) (.arr (items.map toJson)) := by
  refine .arr fun v hv => ?_
  obtain ⟨a, -, rfl⟩ := List.mem_map.mp hv
  exact h a

/-- A member that is left out when its list is empty. -/
theorem readable_nonempty {α : Type} {toJson : α → Json} (h : ∀ a, Readable depth (toJson a))
    (name : String) (items : List α) :
    ∀ m ∈ if items.isEmpty then [] else [(name, Json.arr (items.map toJson))],
      Readable (depth + 1) m.2 := by
  intro m hm
  split at hm
  · cases hm
  · rw [List.mem_singleton] at hm
    exact hm ▸ readable_list h items

theorem Choice.readable (c : Choice) : Readable (depth + 1) c.toJson :=
  .obj (List.forall_mem_cons.mpr ⟨.str _, List.forall_mem_cons.mpr ⟨.str _, List.forall_mem_nil _⟩⟩)

theorem FilterField.readable (f : FilterField) : Readable (depth + 1) f.toJson :=
  .obj (List.forall_mem_cons.mpr ⟨.str _, readable_optional "label" f.label?⟩)

theorem Field.readable (f : Field) : Readable (depth + 3) f.toJson := by
  have htype : Readable (depth + 2) f.type.toMember.2 := by
    cases f.type <;> exact .str _
  have hchoices := readable_nonempty (@Choice.readable depth) "choices" f.choices
  refine .obj (List.forall_mem_append.mpr ⟨?_, ?_⟩)
  · exact List.forall_mem_cons.mpr ⟨.str _, readable_optional "verbose_name" f.verboseName?⟩
  · exact List.forall_mem_cons.mpr ⟨htype, List.forall_mem_cons.mpr ⟨.str _, hchoices⟩⟩

theorem Model.readable (m : Model) : Readable (depth + 5) m.toJson := by
  have hfields := readable_list (@Field.readable depth) m.fields.entries
  have hpaths := readable_nonempty (@FilterField.readable (depth + 2)) "filter_fields" m.filterFields
  refine .obj (List.forall_mem_append.mpr ⟨?_, ?_⟩)
  · exact List.forall_mem_cons.mpr ⟨.str _, readable_optional "verbose_name" m.verboseName?⟩
  · exact List.forall_mem_cons.mpr ⟨hfields, hpaths⟩

theorem Registry.readable (r : Registry) : Readable (depth + 7) r.toJson := by
  have hmodels := readable_list (@Model.readable depth) r.models.entries
  exact .obj (List.forall_mem_cons.mpr ⟨hmodels, List.forall_mem_nil _⟩)

end Texts

/-- **A registry is read back from its Json text**: the same models in the same order, each with the
same fields in the same order. -/
theorem Registry.ofJsonText_text_toJson (r : Registry) : Registry.ofJsonText r.toJson.text = .ok r := by
  have hread : Json.read? r.toJson.text = some r.toJson := read?_text (Registry.readable r)
  rw [ofJsonText, hread, Option.bind_some, Registry.ofJson?_toJson]

end Filterbook
