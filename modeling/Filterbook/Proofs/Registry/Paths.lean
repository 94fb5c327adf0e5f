import Filterbook.Proofs.Registry.Validity

/-!
# Paths and chains of fields

A path is the text of a chain of fields: relations that lead from model to model, and a scalar field at
the end, their names joined by the mark between segments. In a checked registry no name holds that mark.
But a name may end in one underscore, and then the mark that follows is found one character too early.
This module proves when a path is read as the chain that it was made of.

## What is proved

* `Registry.walk_chain`: following the names of a chain ends on its last field.
* `Registry.split_chainPath_iff`: cutting a path gives the names back exactly when no relation of the
  chain has a name that ends in an underscore.
* `Registry.path_names_chain`: then the path resolves to the field at the end of the chain.
-/

namespace Filterbook

/-- The name of a field ends in an underscore, half of the mark between segments. -/
def Field.EndsInUnderscore (f : Field) : Prop := ['_'] <:+ f.name.toList

instance (f : Field) : Decidable f.EndsInUnderscore :=
  inferInstanceAs (Decidable (['_'] <:+ f.name.toList))

/-- The path of a chain of fields. -/
def chainPath (fields : List Field) : String := pathSeparator.intercalate (fields.map (·.name))

/-- Half of a doubled mark after a text completes the mark only where the text ends in the other half. -/
theorem infix_pair_concat_iff {c : Char} {cs : List Char} (h : ¬ [c, c] <:+: cs) :
    [c, c] <:+: cs ++ [c] ↔ [c] <:+ cs := by
  have hpair : [c, c] = [c] ++ [c] := rfl
  rw [List.infix_concat_iff, or_iff_left h, hpair, List.suffix_append_self_iff]

namespace Registry

variable {r : Registry} {m last : Model} {g : Field} {fs : List Field} {kind : Kind}

/-- Relations that lead from one model to another: each is a field of the model that the one before
leads to. -/
inductive Leads (r : Registry) : Model → List Field → Model → Prop where
  /-- No relation leads nowhere else. -/
  | here (m : Model) : Leads r m [] m
  /-- A relation leads to its model, and others lead on from there. -/
  | through {m next last : Model} {f : Field} {fs : List Field} {target : String}
      (hf : f ∈ m.fields.entries) (htype : f.type = .relation target)
      (hnext : r.model target = .ok next) (h : Leads r next fs last) : Leads r m (f :: fs) last

theorem walk_scalar {path : String} {multiValued : Bool} (hg : g ∈ m.fields.entries)
    (hkind : g.type = .scalar kind) :
    r.walk path [g.name] m multiValued = .ok (g, multiValued) := by
  have hfield : m.field? g.name = some g := Roster.get?_of_mem hg
  simp [walk, hfield, hkind]

theorem walk_relation {path target : String} {multiValued : Bool} {f : Field} {next : Model}
    {rest : List String} (hf : f ∈ m.fields.entries) (htype : f.type = .relation target)
    (hnext : r.model target = .ok next) (hrest : rest ≠ []) :
    r.walk path (f.name :: rest) m multiValued =
      r.walk path rest next (multiValued || f.modifier.isList) := by
  have hfield : m.field? f.name = some f := Roster.get?_of_mem hf
  obtain ⟨segment, rest, rfl⟩ := List.exists_cons_of_ne_nil hrest
  simp [walk, hfield, htype, hnext, bind, Except.bind]

/-- **Following the names of relations that lead from one model to another goes on from there**, and a
list relation on the way counts. -/
theorem walk_of_leads (h : r.Leads m fs last) {path : String} {rest : List String} (hrest : rest ≠ []) :
    ∀ multiValued, r.walk path (fs.map (·.name) ++ rest) m multiValued =
      r.walk path rest last (multiValued || fs.any (·.modifier.isList)) := by
  induction h with
  | here m =>
    intro multiValued
    simp
  | through hf htype hnext _ ih =>
    intro multiValued
    rw [List.map_cons, List.cons_append,
      walk_relation hf htype hnext (List.append_ne_nil_of_right_ne_nil _ hrest), ih, List.any_cons,
      Bool.or_assoc]

/-- Following the names of a chain ends on its last field. -/
theorem walk_chain (h : r.Leads m fs last) (hg : g ∈ last.fields.entries)
    (hkind : g.type = .scalar kind) (path : String) (multiValued : Bool) :
    r.walk path ((fs ++ [g]).map (·.name)) m multiValued =
      .ok (g, multiValued || fs.any (·.modifier.isList)) := by
  rw [List.map_append, List.map_singleton, walk_of_leads h (List.cons_ne_nil _ _), walk_scalar hg hkind]

/-- In a valid registry the relations of a chain are valid, and so is the model at its end. -/
theorem Leads.valid (h : r.Leads m fs last) (hr : r.Valid) (hm : m ∈ r.models.entries) :
    (∀ f ∈ fs, f.Valid r) ∧ last ∈ r.models.entries := by
  induction h with
  | here m => exact ⟨List.forall_mem_nil _, hm⟩
  | through hf _ hnext _ ih =>
    obtain ⟨hvalid, hlast⟩ := ih (model_eq_ok_iff.mp hnext).1
    exact ⟨List.forall_mem_cons.mpr ⟨(hr _ hm).fields _ hf, hvalid⟩, hlast⟩

/-- **A path falls apart into the names that it was made of**, if and only if no relation of its chain
has a name that ends in an underscore. -/
theorem split_chainPath_iff (hfs : ∀ f ∈ fs, f.Valid r) (hg : g.Valid r) :
    Text.split pathSeparator (chainPath (fs ++ [g])) = (fs ++ [g]).map (·.name) ↔
      ∀ f ∈ fs, ¬ f.EndsInUnderscore := by
  have hlast : ¬ pathSeparator.toList <:+: g.name.toList := hg.no_mark
  have hjoin : ∀ f ∈ fs, (pathSeparator.toList <:+: f.name.toList ++ pathSeparator.toList.dropLast ↔
      f.EndsInUnderscore) := fun f hf => infix_pair_concat_iff (hfs f hf).no_mark
  rw [Text.split_eq_iff (by decide), chainPath, and_iff_left rfl, List.map_map, List.map_append,
    List.map_singleton, Text.parted_concat_iff, List.forall_mem_map]
  simp only [Function.comp_apply, hlast, not_false_eq_true, and_true]
  exact forall₂_congr fun f hf => not_congr (hjoin f hf)

/-- A path that falls apart into the names of a chain resolves to the field at its end. -/
theorem resolve_of_split {name path : String} (hm : r.model name = .ok m) (h : r.Leads m fs last)
    (hg : g ∈ last.fields.entries) (hkind : g.type = .scalar kind)
    (hsplit : Text.split pathSeparator path = (fs ++ [g]).map (·.name)) :
    r.resolve name path = .ok ⟨name, path, g, kind, fs.any (·.modifier.isList)⟩ := by
  have hname : m.name = name := (model_eq_ok_iff.mp hm).2
  have hwalk := walk_chain h hg hkind path false
  simp only [resolve, hm, hsplit, hwalk, hname, hkind, bind, Except.bind, Bool.false_or,
    FieldType.kind?, Option.getD_some]

/-- In a valid registry the name of a scalar field is a path to it. -/
theorem resolve_name (hr : r.Valid) {name : String} (hm : r.model name = .ok m)
    (hg : g ∈ m.fields.entries) (hkind : g.type = .scalar kind) :
    r.resolve name g.name = .ok ⟨name, g.name, g, kind, false⟩ := by
  have hpath : chainPath ([] ++ [g]) = g.name := by simp [chainPath]
  have hvalid : g.Valid r := (hr m (model_eq_ok_iff.mp hm).1).fields g hg
  have hsplit := (split_chainPath_iff (List.forall_mem_nil _) hvalid).mpr (List.forall_mem_nil _)
  rw [← hpath]
  exact resolve_of_split hm (.here m) hg hkind hsplit

/-- In a valid registry the mark of a separator is no path. -/
theorem ne_separatorText_of_resolve (hr : r.Valid) {name path : String} {field : Resolved}
    (h : r.resolve name path = .ok field) : path ≠ separatorText := by
  rintro rfl
  have hsplit : Text.split pathSeparator separatorText = [separatorText] := by decide
  cases hm : r.model name with
  | error e => simp [resolve, hm, bind, Except.bind] at h
  | ok m =>
    cases hf : m.field? separatorText with
    | none => simp [resolve, hm, hsplit, walk, hf, bind, Except.bind] at h
    | some f =>
      obtain ⟨hmem, hname⟩ := Roster.get?_eq_some_iff.mp hf
      exact ((hr m (model_eq_ok_iff.mp hm).1).fields f hmem).not_reserved hname

/-- **A path names one chain of fields**: cut at the marks it is the names of its chain, and resolves to
the field at the end, unless a relation of the chain has a name that ends in an underscore. -/
theorem path_names_chain (hr : r.validate = .ok r) {name : String} (hm : r.model name = .ok m)
    (h : r.Leads m fs last) (hg : g ∈ last.fields.entries) (hkind : g.type = .scalar kind) :
    (Text.split pathSeparator (chainPath (fs ++ [g])) = (fs ++ [g]).map (·.name) ↔
        ∀ f ∈ fs, ¬ f.EndsInUnderscore) ∧
      ((∀ f ∈ fs, ¬ f.EndsInUnderscore) →
        r.resolve name (chainPath (fs ++ [g])) =
          .ok ⟨name, chainPath (fs ++ [g]), g, kind, fs.any (·.modifier.isList)⟩) := by
  have hvalid : r.Valid := (validate_eq_ok_iff.mp hr).1
  obtain ⟨hfs, hlast⟩ := h.valid hvalid (model_eq_ok_iff.mp hm).1
  have hsplit := split_chainPath_iff hfs ((hvalid _ hlast).fields g hg)
  exact ⟨hsplit, fun hends => resolve_of_split hm h hg hkind (hsplit.mpr hends)⟩

/-! ### A path of one chain, and one of two -/

/-- The relation of a product to its parts. -/
def partsField : Field := { name := "part", type := .relation "Part", modifier := .list }

/-- A relation with the same name but for an underscore at its end. -/
def mainPartField : Field := { name := "part_", type := .relation "Part" }

/-- The relation of a part to its product. -/
def productField : Field := { name := "product", type := .relation "Product" }

/-- The name of a part. -/
def nameField : Field := { name := "name", type := .scalar .string }

/-- A field with the same name but for an underscore at its beginning. -/
def hiddenNameField : Field := { name := "_name", type := .scalar .string }

/-- The model of products. -/
def product : Model := { name := "Product", fields := .ofList [partsField, mainPartField] }

/-- The model of parts. -/
def part : Model := { name := "Part", fields := .ofList [nameField, hiddenNameField, productField] }

/-- Products and parts, which lead to each other. -/
def products : Registry := Registry.insert (Registry.insert {} product) part

theorem path_names_chain_cycle :
    products.validate = .ok products ∧
      products.resolve "Product" "part__product__part___name" =
        .ok ⟨"Product", "part__product__part___name", hiddenNameField, .string, true⟩ := by
  have hvalid : products.validate = .ok products := rfl
  have hmodel : products.model "Product" = .ok product := rfl
  have hchain : products.Leads product [partsField, productField, partsField] part :=
    .through (by decide) rfl rfl <| .through (by decide) rfl rfl <|
      .through (by decide) rfl rfl (.here part)
  have hname : hiddenNameField ∈ part.fields.entries := by decide
  obtain ⟨-, hresolve⟩ := path_names_chain hvalid hmodel hchain hname rfl
  exact ⟨hvalid, hresolve (by decide)⟩

/-- Two chains of a checked registry have one path, and it resolves to the end of the second. -/
theorem path_of_two_chains :
    products.validate = .ok products ∧ products.model "Product" = .ok product ∧
      products.Leads product [mainPartField] part ∧ nameField ∈ part.fields.entries ∧
      chainPath [mainPartField, nameField] = chainPath [partsField, hiddenNameField] ∧
      products.resolve "Product" (chainPath [mainPartField, nameField]) =
        .ok ⟨"Product", "part___name", hiddenNameField, .string, true⟩ :=
  ⟨rfl, rfl, .through (by decide) rfl rfl (.here part), by decide, by decide, rfl⟩

end Registry

end Filterbook
