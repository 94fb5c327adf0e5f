import Filterbook.Proofs.Registry.Paths

/-!
# What a path resolves to

A path is followed segment by segment from its model: all but the last segment name relations, each to a
registered model that the next segment is looked up on, and the last one names a scalar field. Where a
segment breaks this rule, the path stops with an error that tells what was looked up, and where.

## What is proved

* `Registry.ends_or_stops`: the segments of a path either lead to a scalar field, or stop at a first
  segment that does not lead on.
* `Registry.resolve_exact`: a path resolves in the first case, to that field, and fails in the second,
  with the error of that segment; in a checked registry no relation on the way leads to an unknown model.
-/

namespace Filterbook

namespace Registry

variable {r : Registry} {m : Model} {name path : String} {segments : List String}

/-! ### Models -/

theorem exists_model_iff : (∃ m, r.model name = .ok m) ↔ r.contains name = true := by
  simp only [model_eq_ok_iff, ← Roster.get?_eq_some_iff]
  exact Roster.contains_iff.symm

theorem model_eq_error_iff {e : RegistryError} :
    r.model name = .error e ↔ r.contains name = false ∧ e = .unknownModel name := by
  rw [model, contains, Roster.contains, model?]
  cases r.models.get? name with
  | none => simp [eq_comm]
  | some m => simp

/-! ### Where a path stops -/

/-- The error at the first of some segments when it does not lead on from a model, nor end there. -/
inductive Stops (r : Registry) (path : String) (m : Model) : List String → RegistryError → Prop where
  /-- The segment names no field of the model. -/
  | unknown {segment : String} {rest : List String} (h : ∀ f ∈ m.fields.entries, f.name ≠ segment) :
      Stops r path m (segment :: rest) (.unknownField m.name path segment)
  /-- The last segment names a relation. -/
  | onRelation {f : Field} {target : String} (hf : f ∈ m.fields.entries)
      (htype : f.type = .relation target) :
      Stops r path m [f.name] (.invalidPath m.name f.name path .endsOnRelation)
  /-- A segment names a scalar field, and more segments follow. -/
  | pastScalar {f : Field} {kind : Kind} {rest : List String} (hf : f ∈ m.fields.entries)
      (htype : f.type = .scalar kind) (hrest : rest ≠ []) :
      Stops r path m (f.name :: rest) (.invalidPath m.name f.name path .notRelation)
  /-- A segment names a relation to a model that is not registered, and more segments follow. -/
  | unregistered {f : Field} {target : String} {rest : List String} (hf : f ∈ m.fields.entries)
      (htype : f.type = .relation target) (htarget : r.contains target = false) (hrest : rest ≠ []) :
      Stops r path m (f.name :: rest) (.unknownModel target)

theorem Stops.ne_nil {e : RegistryError} (h : r.Stops path m segments e) : segments ≠ [] := by
  cases h <;> exact List.cons_ne_nil _ _

theorem walk_of_stops {e : RegistryError} (h : r.Stops path m segments e) (multiValued : Bool) :
    r.walk path segments m multiValued = .error e := by
  cases h with
  | @unknown segment rest h =>
    have hfield : m.field? segment = none := by simpa [Model.field?, Roster.get?] using h
    simp [walk, hfield]
  | onRelation hf htype =>
    have hfield : m.field? _ = some _ := Roster.get?_of_mem hf
    simp [walk, hfield, htype]
  | pastScalar hf htype hrest =>
    have hfield : m.field? _ = some _ := Roster.get?_of_mem hf
    obtain ⟨segment, rest, rfl⟩ := List.exists_cons_of_ne_nil hrest
    simp [walk, hfield, htype]
  | unregistered hf htype htarget hrest =>
    have hfield : m.field? _ = some _ := Roster.get?_of_mem hf
    have hmodel := model_eq_error_iff.mpr ⟨htarget, rfl⟩
    obtain ⟨segment, rest, rfl⟩ := List.exists_cons_of_ne_nil hrest
    simp [walk, hfield, htype, hmodel, bind, Except.bind]

/-! ### Where a path leads -/

/-- Segments name relations that lead on from a model, and then a scalar field. -/
structure Ends (r : Registry) (m : Model) (segments : List String) (fs : List Field) (g : Field)
    (kind : Kind) : Prop where
  /-- The relations lead to a model that has the field. -/
  leads : ∃ last, r.Leads m fs last ∧ g ∈ last.fields.entries
  /-- The field is scalar. -/
  scalar : g.type = .scalar kind
  /-- The segments are the names. -/
  names : segments = (fs ++ [g]).map (·.name)

/-- Segments name relations that lead on from a model, and stop there with an error. -/
def Breaks (r : Registry) (path : String) (m : Model) (segments : List String) (e : RegistryError) :
    Prop :=
  ∃ fs last rest, r.Leads m fs last ∧ segments = fs.map (·.name) ++ rest ∧ r.Stops path last rest e

theorem Ends.through {next : Model} {f g : Field} {fs : List Field} {kind : Kind} {target : String}
    (hf : f ∈ m.fields.entries) (htype : f.type = .relation target) (hnext : r.model target = .ok next)
    (h : r.Ends next segments fs g kind) : r.Ends m (f.name :: segments) (f :: fs) g kind := by
  obtain ⟨⟨last, hleads, hg⟩, hkind, rfl⟩ := h
  exact ⟨⟨last, .through hf htype hnext hleads, hg⟩, hkind, rfl⟩

theorem Breaks.through {next : Model} {f : Field} {e : RegistryError} {target : String}
    (hf : f ∈ m.fields.entries) (htype : f.type = .relation target) (hnext : r.model target = .ok next)
    (h : r.Breaks path next segments e) : r.Breaks path m (f.name :: segments) e := by
  obtain ⟨fs, last, rest, hleads, rfl, hstops⟩ := h
  exact ⟨f :: fs, last, rest, .through hf htype hnext hleads, rfl, hstops⟩

theorem Stops.breaks {e : RegistryError} (h : r.Stops path m segments e) : r.Breaks path m segments e :=
  ⟨[], m, segments, .here m, rfl, h⟩

/-- **Segments lead to a scalar field, or stop at the first one that does not lead on.** -/
theorem ends_or_stops (path : String) (hsegments : segments ≠ []) :
    (∃ fs g kind, r.Ends m segments fs g kind) ∨ ∃ e, r.Breaks path m segments e := by
  induction segments generalizing m with
  | nil => exact absurd rfl hsegments
  | cons segment rest ih =>
    by_cases hknown : ∃ f ∈ m.fields.entries, f.name = segment
    · obtain ⟨f, hf, rfl⟩ := hknown
      by_cases hrest : rest = []
      · subst hrest
        cases htype : f.type with
        | scalar kind => exact .inl ⟨[], f, kind, ⟨m, .here m, hf⟩, htype, rfl⟩
        | relation target => exact .inr ⟨_, (Stops.onRelation hf htype).breaks⟩
      · cases htype : f.type with
        | scalar kind => exact .inr ⟨_, (Stops.pastScalar hf htype hrest).breaks⟩
        | relation target =>
          cases htarget : r.contains target with
          | false => exact .inr ⟨_, (Stops.unregistered hf htype htarget hrest).breaks⟩
          | true =>
            obtain ⟨next, hnext⟩ := exists_model_iff.mpr htarget
            rcases ih (m := next) hrest with ⟨fs, g, kind, hends⟩ | ⟨e, hbreaks⟩
            · exact .inl ⟨f :: fs, g, kind, hends.through hf htype hnext⟩
            · exact .inr ⟨e, hbreaks.through hf htype hnext⟩
    · have hunknown : ∀ f ∈ m.fields.entries, f.name ≠ segment :=
        fun f hf hname => hknown ⟨f, hf, hname⟩
      exact .inr ⟨_, (Stops.unknown hunknown).breaks⟩

theorem walk_of_breaks {e : RegistryError} (h : r.Breaks path m segments e) (multiValued : Bool) :
    r.walk path segments m multiValued = .error e := by
  obtain ⟨fs, last, rest, hleads, rfl, hstops⟩ := h
  rw [walk_of_leads hleads hstops.ne_nil, walk_of_stops hstops]

/-- In a valid registry the relations that a path crosses lead to models. -/
theorem Breaks.ne_unknownModel {e : RegistryError} (h : r.Breaks path m segments e) (hr : r.Valid)
    (hm : m ∈ r.models.entries) (target : String) : e ≠ .unknownModel target := by
  obtain ⟨fs, last, rest, hleads, -, hstops⟩ := h
  have hlast : last ∈ r.models.entries := (hleads.valid hr hm).2
  rintro rfl
  cases hstops with
  | unregistered hf htype htarget _ =>
    have hknown : r.contains target = true := ((hr last hlast).fields _ hf).target target htype
    rw [htarget] at hknown
    cases hknown

/-! ### Resolving -/

theorem resolve_of_ends (hm : r.model name = .ok m) {fs : List Field} {g : Field} {kind : Kind}
    (h : r.Ends m (Text.split pathSeparator path) fs g kind) :
    r.resolve name path = .ok ⟨name, path, g, kind, fs.any (·.modifier.isList)⟩ := by
  obtain ⟨⟨last, hleads, hg⟩, hkind, hnames⟩ := h
  exact resolve_of_split hm hleads hg hkind hnames

theorem resolve_of_breaks (hm : r.model name = .ok m) {e : RegistryError}
    (h : r.Breaks path m (Text.split pathSeparator path) e) : r.resolve name path = .error e := by
  simp only [resolve, hm, walk_of_breaks h, bind, Except.bind]

theorem resolve_of_unregistered (h : r.contains name = false) :
    r.resolve name path = .error (.unknownModel name) := by
  have hm := model_eq_error_iff.mpr ⟨h, rfl⟩
  simp only [resolve, hm, bind, Except.bind]

/-- What comes of resolving a path from a registered model. -/
theorem resolve_cases (hm : r.model name = .ok m) (path : String) :
    (∃ fs g kind, r.Ends m (Text.split pathSeparator path) fs g kind ∧
        r.resolve name path = .ok ⟨name, path, g, kind, fs.any (·.modifier.isList)⟩) ∨
      ∃ e, r.Breaks path m (Text.split pathSeparator path) e ∧ r.resolve name path = .error e := by
  have hsegments : Text.split pathSeparator path ≠ [] := Text.split_ne_nil pathSeparator path
  rcases ends_or_stops path hsegments with ⟨fs, g, kind, hends⟩ | ⟨e, hbreaks⟩
  · exact .inl ⟨fs, g, kind, hends, resolve_of_ends hm hends⟩
  · exact .inr ⟨e, hbreaks, resolve_of_breaks hm hbreaks⟩

theorem resolve_eq_ok_iff {field : Resolved} :
    r.resolve name path = .ok field ↔
      ∃ m fs g kind, r.model name = .ok m ∧ r.Ends m (Text.split pathSeparator path) fs g kind ∧
        field = ⟨name, path, g, kind, fs.any (·.modifier.isList)⟩ := by
  constructor
  · intro h
    cases hm : r.model name with
    | error e => simp [resolve, hm, bind, Except.bind] at h
    | ok m =>
      rcases resolve_cases hm path with ⟨fs, g, kind, hends, hok⟩ | ⟨e, -, herror⟩
      · rw [hok, Except.ok.injEq] at h
        exact ⟨m, fs, g, kind, rfl, hends, h.symm⟩
      · rw [herror] at h
        cases h
  · rintro ⟨m, fs, g, kind, hm, hends, rfl⟩
    exact resolve_of_ends hm hends

theorem resolve_eq_error_iff {e : RegistryError} :
    r.resolve name path = .error e ↔
      (r.contains name = false ∧ e = .unknownModel name) ∨
        ∃ m, r.model name = .ok m ∧ r.Breaks path m (Text.split pathSeparator path) e := by
  constructor
  · intro h
    cases hm : r.model name with
    | error e' =>
      obtain ⟨habsent, rfl⟩ := model_eq_error_iff.mp hm
      rw [resolve_of_unregistered habsent, Except.error.injEq] at h
      exact .inl ⟨habsent, h.symm⟩
    | ok m =>
      rcases resolve_cases hm path with ⟨fs, g, kind, -, hok⟩ | ⟨e', hbreaks, herror⟩
      · rw [hok] at h
        cases h
      · rw [herror, Except.error.injEq] at h
        exact .inr ⟨m, rfl, h ▸ hbreaks⟩
  · rintro (⟨habsent, rfl⟩ | ⟨m, hm, hbreaks⟩)
    · exact resolve_of_unregistered habsent
    · exact resolve_of_breaks hm hbreaks

/-- **What a path resolves to**, with its segments the pieces between the marks, each taken from the left
and without overlap: the scalar field that the segments end at, its kind, and whether a relation on the
way is a list; or else the error at the first segment that does not lead on. No relation of a checked
registry leads to an unknown model. -/
theorem resolve_exact (r : Registry) (name path : String) :
    (Text.Parted pathSeparator.toList ((Text.split pathSeparator path).map (·.toList)) ∧
        pathSeparator.intercalate (Text.split pathSeparator path) = path) ∧
      (∀ field, r.resolve name path = .ok field ↔
        ∃ m fs g kind, r.model name = .ok m ∧ r.Ends m (Text.split pathSeparator path) fs g kind ∧
          field = ⟨name, path, g, kind, fs.any (·.modifier.isList)⟩) ∧
      (∀ e, r.resolve name path = .error e ↔
        (r.contains name = false ∧ e = .unknownModel name) ∨
          ∃ m, r.model name = .ok m ∧ r.Breaks path m (Text.split pathSeparator path) e) ∧
      (r.validate = .ok r → r.contains name = true →
        ∀ target, r.resolve name path ≠ .error (.unknownModel target)) := by
  refine ⟨(Text.split_eq_iff (by decide)).mp rfl, fun field => resolve_eq_ok_iff,
    fun e => resolve_eq_error_iff, fun hr hname target herror => ?_⟩
  have hvalid : r.Valid := (validate_eq_ok_iff.mp hr).1
  rcases resolve_eq_error_iff.mp herror with ⟨habsent, -⟩ | ⟨m, hm, hbreaks⟩
  · rw [hname] at habsent
    cases habsent
  · exact hbreaks.ne_unknownModel hvalid (model_eq_ok_iff.mp hm).1 target rfl

theorem resolve_exact_products :
    products.validate = .ok products ∧ products.contains "Product" = true ∧
      products.resolve "Product" "part__colour" =
        .error (.unknownField "Part" "part__colour" "colour") ∧
      ∀ target, products.resolve "Product" "part__colour" ≠ .error (.unknownModel target) := by
  have hvalid : products.validate = .ok products := rfl
  have hname : products.contains "Product" = true := rfl
  have hbreaks : products.Breaks "part__colour" product (Text.split pathSeparator "part__colour")
      (.unknownField "Part" "part__colour" "colour") :=
    ⟨[partsField], part, ["colour"], .through (by decide) rfl rfl (.here part), by decide,
      .unknown (by decide)⟩
  obtain ⟨-, -, herror, hnever⟩ := resolve_exact products "Product" "part__colour"
  exact ⟨hvalid, hname, (herror _).mpr (.inr ⟨product, rfl, hbreaks⟩), hnever hvalid hname⟩

end Registry

end Filterbook
