import Filterbook.Proofs.Filter.Reached
import Filterbook.Proofs.Registry.Resolution

/-!
# Rows that conform to a model

Filters are decided on rows without a look at the registry: a path walks through whatever objects and
lists it finds. On a row that conforms to its model, the walk is the one that the registry tells of: from
record to record along the relations of the path, to the member of the field at the end.

## What is proved

* `Registry.Conforms.step`: one relation leads from a conforming row to conforming records, and what is
  reached through it is what is reached through them.
* `Registry.reached_by_relations`: so a path that resolves reaches the members at the end of its
  relations, in order, and one at most when no relation on the way is a list.
-/

namespace Filterbook

namespace Registry

mutual

/-- A row is an object in which every field of a model that has a member fits it. -/
inductive Conforms (r : Registry) : Model → Json → Prop where
  /-- The members of the fields fit. Members that belong to no field do not matter. -/
  | row {m : Model} {members : List (String × Json)}
      (h : ∀ f ∈ m.fields.entries, ∀ v, members.lookup f.name = some v → Fits r f v) :
      Conforms r m (.obj members)

/-- A value fits a field that holds it. -/
inductive Fits (r : Registry) : Field → Json → Prop where
  /-- A scalar field that is a list may hold any value. -/
  | values {f : Field} {kind : Kind} {v : Json} (htype : f.type = .scalar kind)
      (hlist : f.modifier.isList = true) : Fits r f v
  /-- A scalar field that is no list holds no array. -/
  | value {f : Field} {kind : Kind} {v : Json} (htype : f.type = .scalar kind)
      (hlist : f.modifier.isList = false) (hv : ∀ items, v ≠ .arr items) : Fits r f v
  /-- A relation may hold nothing. -/
  | nothing {f : Field} {target : String} (htype : f.type = .relation target) : Fits r f .null
  /-- A relation that is no list holds a row of the related model. -/
  | record {f : Field} {target : String} {next : Model} {v : Json} (htype : f.type = .relation target)
      (hlist : f.modifier.isList = false) (hnext : r.model target = .ok next) (h : Conforms r next v) :
      Fits r f v
  /-- A relation that is a list holds an array of rows of the related model. -/
  | records {f : Field} {target : String} {next : Model} {items : List Json}
      (htype : f.type = .relation target) (hlist : f.modifier.isList = true)
      (hnext : r.model target = .ok next) (h : ∀ x ∈ items, Conforms r next x) : Fits r f (.arr items)

end

end Registry

namespace Json

/-- The records that a relation of a row leads to. -/
def related (f : Field) (row : Json) : List Json :=
  match f.modifier.isList, row.get? f.name with
  | true, some (arr records) => records
  | false, some (obj members) => [obj members]
  | _, _ => []

/-- The members of a field in the records that relations lead to, one relation after another. -/
def terminals (g : Field) : (relations : List Field) → Json → List Json
  | [], row => (row.get? g.name).toList
  | f :: fs, row => (row.related f).flatMap (terminals g fs)

theorem length_related_le {f : Field} (h : f.modifier.isList = false) (row : Json) :
    (row.related f).length ≤ 1 := by
  unfold related
  rw [h]
  split <;> simp_all

/-- Without a list on the way there is one member at most. -/
theorem length_terminals_le (g : Field) {fs : List Field} (h : fs.any (·.modifier.isList) = false)
    (row : Json) : (terminals g fs row).length ≤ 1 := by
  induction fs generalizing row with
  | nil =>
    rw [terminals]
    cases row.get? g.name <;> simp
  | cons f fs ih =>
    rw [List.any_cons, Bool.or_eq_false_iff] at h
    have hrelated := length_related_le h.1 row
    rw [terminals]
    cases hrecords : row.related f with
    | nil => simp
    | cons x records =>
      obtain rfl : records = [] := by simpa [hrecords] using hrelated
      simpa using ih h.2 x

end Json

namespace Registry

variable {r : Registry} {m last next : Model} {row : Json}

theorem Conforms.eq_obj (h : r.Conforms m row) : ∃ members, row = .obj members := by
  cases h with
  | row h => exact ⟨_, rfl⟩

/-- What a relation to a registered model holds. -/
theorem Fits.of_relation {f : Field} {target : String} {v : Json} (h : r.Fits f v)
    (htype : f.type = .relation target) (hnext : r.model target = .ok next) :
    v = .null ∨ (f.modifier.isList = false ∧ r.Conforms next v) ∨
      (f.modifier.isList = true ∧ ∃ items, v = .arr items ∧ ∀ x ∈ items, r.Conforms next x) := by
  cases h with
  | values hscalar | value hscalar =>
    rw [htype] at hscalar
    cases hscalar
  | nothing => exact .inl rfl
  | record htype' hlist hnext' hrow =>
    rw [htype, FieldType.relation.injEq] at htype'
    rw [← htype', hnext, Except.ok.injEq] at hnext'
    exact .inr (.inl ⟨hlist, hnext' ▸ hrow⟩)
  | records htype' hlist hnext' hrows =>
    rw [htype, FieldType.relation.injEq] at htype'
    rw [← htype', hnext, Except.ok.injEq] at hnext'
    exact .inr (.inr ⟨hlist, _, rfl, hnext' ▸ hrows⟩)

/-- A scalar field that is no list holds one value. -/
theorem Fits.spread_eq {g : Field} {kind : Kind} {v : Json} (h : r.Fits g v)
    (hkind : g.type = .scalar kind) (hlist : g.modifier.isList = false) : v.spread = [v] := by
  cases h with
  | values _ hlist' =>
    rw [hlist] at hlist'
    cases hlist'
  | value _ _ hv => cases v <;> first | rfl | exact absurd rfl (hv _)
  | nothing hrelation | record hrelation | records hrelation =>
    rw [hkind] at hrelation
    cases hrelation

/-- **One relation of a conforming row** leads to conforming records, and a path through it goes on from
them. -/
theorem Conforms.step (h : r.Conforms m row) {f : Field} {target : String}
    (hf : f ∈ m.fields.entries) (htype : f.type = .relation target) (hnext : r.model target = .ok next)
    {rest : List String} (hrest : rest ≠ []) :
    (∀ x ∈ row.related f, r.Conforms next x) ∧
      Json.reachBy (f.name :: rest) row = (row.related f).flatMap (Json.reachBy rest) := by
  cases h with
  | @row m members h =>
    rw [Json.reachBy_cons_obj, Json.related, Json.get?]
    cases hmember : members.lookup f.name with
    | none => cases f.modifier.isList <;> simp
    | some v =>
      rcases (h f hf v hmember).of_relation htype hnext with
        rfl | ⟨hlist, hrow⟩ | ⟨hlist, records, rfl, hrecords⟩
      · cases f.modifier.isList <;> simp [Json.reachBy_null hrest]
      · obtain ⟨related, rfl⟩ := hrow.eq_obj
        simp [hlist, hrow]
      · have hobj := fun x hx => (hrecords x hx).eq_obj
        rw [hlist]
        exact ⟨hrecords, by simp [Json.reachBy_arr hrest hobj]⟩

/-- The last segment of a path reaches the member of a scalar field that is no list. -/
theorem Conforms.reachBy_scalar (h : r.Conforms m row) {g : Field} {kind : Kind}
    (hg : g ∈ m.fields.entries) (hkind : g.type = .scalar kind) (hlist : g.modifier.isList = false) :
    Json.reachBy [g.name] row = (row.get? g.name).toList := by
  cases h with
  | @row m members h =>
    rw [Json.reachBy_cons_obj, Json.get?]
    cases hmember : members.lookup g.name with
    | none => rfl
    | some v =>
      have hspread := (h g hg v hmember).spread_eq hkind hlist
      simpa [Json.reachBy_nil] using hspread

/-- **Following the names of relations on a conforming row** is going from record to record along them. -/
theorem Leads.reachBy_eq {fs : List Field} (h : r.Leads m fs last) {g : Field} {kind : Kind}
    (hg : g ∈ last.fields.entries) (hkind : g.type = .scalar kind) (hlist : g.modifier.isList = false)
    (hrow : r.Conforms m row) :
    Json.reachBy ((fs ++ [g]).map (·.name)) row = Json.terminals g fs row := by
  induction h generalizing row with
  | here m => exact hrow.reachBy_scalar hg hkind hlist
  | @through m next last f fs target hf htype hnext _ ih =>
    have hrest : (fs ++ [g]).map (·.name) ≠ [] := by simp
    obtain ⟨hrelated, hreach⟩ := hrow.step hf htype hnext hrest
    rw [List.cons_append, List.map_cons, hreach, Json.terminals]
    exact List.flatMap_congr fun x hx => ih hg (hrelated x hx)

/-- **What a path reaches on a conforming row** is told by the registry: the members of the field at the
end of the path in the records that the relations of the path lead to, in order. There is one at most
unless the path is said to be multi-valued. -/
theorem reached_by_relations {name path : String} {field : Resolved}
    (hpath : r.resolve name path = .ok field) (hlist : field.field.modifier.isList = false)
    (hm : r.model name = .ok m) (hrow : r.Conforms m row) :
    ∃ fs, r.Ends m (Text.split pathSeparator path) fs field.field field.kind ∧
      row.reach path = Json.terminals field.field fs row ∧
      (field.multiValued = false → (row.reach path).length ≤ 1) := by
  obtain ⟨m', fs, g, kind, hm', hends, rfl⟩ := resolve_eq_ok_iff.mp hpath
  rw [hm, Except.ok.injEq] at hm'
  subst hm'
  obtain ⟨last, hleads, hg⟩ := hends.leads
  have hreach : row.reach path = Json.terminals g fs row := by
    rw [Json.reach_eq_reachBy, hends.names]
    exact hleads.reachBy_eq hg hends.scalar hlist hrow
  refine ⟨fs, hends, hreach, fun hsingle => ?_⟩
  rw [hreach]
  exact Json.length_terminals_le g hsingle row

/-- A part of which the name alone is known. -/
def namedPart (name : String) : Json := .obj [("name", .str name)]

/-- A part of a product with three parts, one of which has no name. -/
def wheel : Json :=
  .obj [("name", .str "wheel"),
    ("product", .obj [("part", .arr [namedPart "wheel", .obj [], namedPart "strap"]), ("part_", .null)])]

theorem conforms_namedPart (name : String) : products.Conforms part (namedPart name) := by
  refine .row fun f hf v hv => ?_
  have hentries : part.fields.entries = [nameField, hiddenNameField, productField] := rfl
  rw [hentries] at hf
  simp only [List.mem_cons, List.not_mem_nil, or_false] at hf
  rcases hf with rfl | rfl | rfl
  · obtain rfl : Json.str name = v := Option.some.inj hv
    exact .value rfl rfl nofun
  · cases hv
  · cases hv

theorem conforms_product {parts : List Json} (h : ∀ x ∈ parts, products.Conforms part x) :
    products.Conforms product (.obj [("part", .arr parts), ("part_", .null)]) := by
  refine .row fun f hf v hv => ?_
  have hentries : product.fields.entries = [partsField, mainPartField] := rfl
  rw [hentries] at hf
  simp only [List.mem_cons, List.not_mem_nil, or_false] at hf
  rcases hf with rfl | rfl
  · obtain rfl : Json.arr parts = v := Option.some.inj hv
    exact .records rfl rfl rfl h
  · obtain rfl : Json.null = v := Option.some.inj hv
    exact .nothing rfl

theorem conforms_partOf {row : Json} (h : products.Conforms product row) (name : String) :
    products.Conforms part (.obj [("name", .str name), ("product", row)]) := by
  refine .row fun f hf v hv => ?_
  have hentries : part.fields.entries = [nameField, hiddenNameField, productField] := rfl
  rw [hentries] at hf
  simp only [List.mem_cons, List.not_mem_nil, or_false] at hf
  rcases hf with rfl | rfl | rfl
  · obtain rfl : Json.str name = v := Option.some.inj hv
    exact .value rfl rfl nofun
  · cases hv
  · obtain rfl : row = v := Option.some.inj hv
    exact .record rfl rfl rfl h

theorem conforms_wheel : products.Conforms part wheel := by
  refine conforms_partOf (conforms_product fun x hx => ?_) "wheel"
  simp only [List.mem_cons, List.not_mem_nil, or_false] at hx
  rcases hx with rfl | rfl | rfl
  · exact conforms_namedPart "wheel"
  · exact .row fun f _ v hv => by cases hv
  · exact conforms_namedPart "strap"

theorem reached_by_relations_wheel :
    products.resolve "Part" "product__part__name" =
        .ok ⟨"Part", "product__part__name", nameField, .string, true⟩ ∧
      nameField.modifier.isList = false ∧ products.model "Part" = .ok part ∧
      products.Conforms part wheel ∧
      ∃ fs, products.Ends part (Text.split pathSeparator "product__part__name") fs nameField .string ∧
        wheel.reach "product__part__name" = Json.terminals nameField fs wheel := by
  have hpath : products.resolve "Part" "product__part__name" =
      .ok ⟨"Part", "product__part__name", nameField, .string, true⟩ := rfl
  obtain ⟨fs, hends, hreach, -⟩ := reached_by_relations hpath rfl rfl conforms_wheel
  exact ⟨hpath, rfl, rfl, conforms_wheel, fs, hends, hreach⟩

end Registry

end Filterbook
