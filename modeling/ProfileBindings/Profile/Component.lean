import ProfileBindings.Profile.Document

/-!
# Components

A profile stands for its components: every component of every sub-path, once for each subaction path under
which the sub-path exists. A component is selected by its canonical paths: its own path, and the path of
its sub-path, which it shares with its neighbours. A position has two coordinates and is selected by the
path of either.

Main definitions: `Component`, `Profile.expand` (the components in order), `Component.paths`.
-/

namespace ProfileBindings

/-- A component of a sub-path under one subaction path. -/
structure Component where
  subaction : String
  subPath : SubPath
  name : String

namespace Component

/-- The path of the sub-path below the subaction path. -/
def basePath (c : Component) : String := c.subaction ++ c.subPath.path

/-- The canonical paths of the component, the shared one last. -/
def paths (c : Component) : List String :=
  if c.name = "position" then [c.basePath ++ "/x", c.basePath ++ "/y", c.basePath]
  else [c.basePath ++ "/" ++ c.name, c.basePath]

/-- The components that SteamVR knows by a path of their own. -/
def steamvrNamed : List String := ["click", "touch", "force", "value"]

/-- The path of the component for SteamVR. -/
def steamvrPath (c : Component) : String :=
  if c.name ∈ steamvrNamed then c.subPath.path ++ "/" ++ c.name else c.subPath.path

/-- Whether the component feeds the runtime. -/
def direction (c : Component) : Direction := .ofComponent c.name

/-- What the component is bound to. -/
def binding (c : Component) : Binding := c.subPath.binding c.name

/-- The name of the surface that the component belongs to. -/
def localizedName (c : Component) : String := c.subPath.localizedName

end Component

namespace Profile

/-- The sub-paths that exist under a subaction path. -/
def subPathsUnder (p : Profile) (subaction : String) : List SubPath :=
  p.subPaths.filter (·.appliesTo subaction)

/-- The components of a profile: by subaction path, then by sub-path, then as the sub-path lists them. -/
def expand (p : Profile) : List Component :=
  p.subactionPaths.flatMap fun subaction =>
    (p.subPathsUnder subaction).flatMap fun subPath =>
      subPath.components.map fun name => { subaction, subPath, name }

theorem mem_expand {p : Profile} {c : Component} :
    c ∈ p.expand ↔
      c.subaction ∈ p.subactionPaths ∧ c.subPath ∈ p.subPaths ∧
        c.subPath.appliesTo c.subaction = true ∧ c.name ∈ c.subPath.components := by
  simp only [expand, subPathsUnder, List.mem_flatMap, List.mem_map, List.mem_filter]
  constructor
  · rintro ⟨subaction, hs, subPath, ⟨hp, ha⟩, name, hn, rfl⟩
    exact ⟨hs, hp, ha, hn⟩
  · rintro ⟨hs, hp, ha, hn⟩
    exact ⟨c.subaction, hs, c.subPath, ⟨hp, ha⟩, c.name, hn, rfl⟩

end Profile

end ProfileBindings
