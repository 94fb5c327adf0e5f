import Filterbook.Access.Settings
import Filterbook.ListingOrder
import Filterbook.Registry.Error
import Filterbook.Roster
import Filterbook.Settings.Reference
import Filterbook.Toml.Reader

/-!
# Settings

Settings are written in Toml, after references to variables are replaced: access, the order of
listings, where the registry is found, and for named environments what is different there. The order
of listings names at least one attribute.
-/

namespace Filterbook

/-- Settings of access that are different in an environment. -/
structure AccessOverride where
  /-- Only the owner may see a filter. -/
  viewOwnerOnly? : Option Bool := none
  /-- Only the owner may change a filter. -/
  changeOwnerOnly? : Option Bool := none
  /-- Only the owner may delete a filter. -/
  deleteOwnerOnly? : Option Bool := none
  /-- Grants on single filters count. -/
  filterGrantsCount? : Option Bool := none
  deriving DecidableEq, Repr

/-- Settings that are different in an environment. -/
structure EnvironmentOverride where
  /-- Settings of access, one by one. -/
  access? : Option AccessOverride := none
  /-- Another order of listings. -/
  listing? : Option ListingOrder := none
  deriving DecidableEq, Repr

/-- All settings. -/
structure Settings where
  /-- The settings of access. -/
  access : AccessSettings := {}
  /-- The order of listings. -/
  listing : ListingOrder := .standard
  /-- The file of the registry, if it is named. -/
  registryPath? : Option String := none
  /-- What is different in named environments. -/
  environments : Roster (String × EnvironmentOverride) Prod.fst := .empty

/-- The name of a choice in Toml: a text, or a table whose only member is empty. -/
def Toml.choice? : Json → Option String
  | .str s => some s
  | .obj [(name, .obj [])] => some name
  | .obj [(name, .arr [])] => some name
  | _ => none

/-- The order of listings that a section of the settings writes. -/
def ListingOrder.ofSection? (j : Json) : Option ListingOrder := do
  let ms ← Json.Shape.members? ⟨["order"], 0, true⟩ j
  some ⟨← Json.defaulted ms "order" (Json.list? (OrderEntry.ofJson? Toml.choice?))
    ListingOrder.standard.entries⟩

/-- The Json form of an order of listings. -/
def ListingOrder.toJson (o : ListingOrder) : Json :=
  .obj [("order", .arr (o.entries.map OrderEntry.toJson))]

/-- A value or `null`. -/
def orNull {α : Type} (write : α → Json) : Option α → Json
  | some a => write a
  | none => .null

namespace AccessOverride

/-- The settings with what is different. -/
def change (o : AccessOverride) (s : AccessSettings) : AccessSettings where
  viewOwnerOnly := o.viewOwnerOnly?.getD s.viewOwnerOnly
  changeOwnerOnly := o.changeOwnerOnly?.getD s.changeOwnerOnly
  deleteOwnerOnly := o.deleteOwnerOnly?.getD s.deleteOwnerOnly
  filterGrantsCount := o.filterGrantsCount?.getD s.filterGrantsCount

/-- The differences that a value writes. -/
def ofJson? (j : Json) : Option AccessOverride := do
  let ms ← Json.Shape.members? ⟨AccessSettings.memberNames, 4, true⟩ j
  some {
    viewOwnerOnly? := ← Json.optional ms "view_owner_only" Json.bool?
    changeOwnerOnly? := ← Json.optional ms "change_owner_only" Json.bool?
    deleteOwnerOnly? := ← Json.optional ms "delete_owner_only" Json.bool?
    filterGrantsCount? := ← Json.optional ms "use_object_level_permissions" Json.bool? }

/-- The Json form of the differences. -/
def toJson (o : AccessOverride) : Json :=
  .obj (AccessSettings.memberNames.zip
    ([o.viewOwnerOnly?, o.changeOwnerOnly?, o.deleteOwnerOnly?, o.filterGrantsCount?].map
      (orNull .bool)))

end AccessOverride

namespace EnvironmentOverride

/-- The differences that a value writes. -/
def ofJson? (j : Json) : Option EnvironmentOverride := do
  let ms ← Json.Shape.members? ⟨["access", "listing"], 2, true⟩ j
  some {
    access? := ← Json.optional ms "access" AccessOverride.ofJson?
    listing? := ← Json.optional ms "listing" ListingOrder.ofSection? }

/-- The Json form of the differences. -/
def toJson (o : EnvironmentOverride) : Json :=
  .obj [("access", orNull AccessOverride.toJson o.access?),
    ("listing", orNull ListingOrder.toJson o.listing?)]

end EnvironmentOverride

namespace Settings

/-- The path of the registry that a section of the settings writes. -/
def registryPath (j : Json) : Option (Option String) := do
  let ms ← Json.Shape.members? ⟨["path"], 1, true⟩ j
  Json.optional ms "path" Json.text?

/-- The environments that a section of the settings writes. -/
def environmentsOf? : Json → Option (List (String × EnvironmentOverride))
  | .obj members => members.mapM fun m => (EnvironmentOverride.ofJson? m.2).map (m.1, ·)
  | _ => none

/-- The settings that a value writes. -/
def ofJson? (j : Json) : Option Settings := do
  let ms ← Json.Shape.members? ⟨["access", "listing", "registry", "environments"], 0, true⟩ j
  some {
    access := ← Json.defaulted ms "access" AccessSettings.ofJson? {}
    listing := ← Json.defaulted ms "listing" ListingOrder.ofSection? .standard
    registryPath? := ← Json.defaulted ms "registry" registryPath none
    environments := .ofList (← Json.defaulted ms "environments" environmentsOf? []) }

/-- The Json form of the settings. -/
def toJson (s : Settings) : Json :=
  .obj [("access", s.access.toJson), ("listing", s.listing.toJson),
    ("registry", .obj [("path", orNull .str s.registryPath?)]),
    ("environments", .obj (s.environments.entries.map fun e => (e.1, e.2.toJson)))]

/-- The settings that a text writes, given the variables that it may refer to. -/
def ofText (valueOf? : String → Option String) (text : String) : Except RegistryError Settings :=
  match (Toml.read? (expandReferences valueOf? text)).bind ofJson? with
  | none => .error .toml
  | some s =>
    if s.listing.entries.isEmpty then
      .error (.settings "listing.order must name at least one field")
    else .ok s

/-- The settings that a file holds. A file that cannot be read has no content. -/
def ofFile (valueOf? : String → Option String) (name : String) (content? : Option String) :
    Except RegistryError Settings :=
  match content? with
  | none => .error (.unreadable name)
  | some text => ofText valueOf? text

/-- The settings in an environment, whose differences are then no longer kept. -/
def inEnvironment (s : Settings) (name : String) : Settings :=
  match s.environments.get? name with
  | none => s
  | some (_, o) => {
      access := (o.access?.map (·.change s.access)).getD s.access
      listing := o.listing?.getD s.listing
      registryPath? := s.registryPath?
      environments := s.environments.erase name }

/-- Nothing is set. -/
def isStandard (s : Settings) : Bool :=
  s.access = {} && s.listing = .standard && s.registryPath? = none && s.environments.entries.isEmpty

end Settings

end Filterbook
