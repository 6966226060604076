import FeatureRefs.Registry.File

/-!
# The registry in force

The registry in force comes from a data file. Reloading reads the file anew and puts the result in place
of the registry; until then everybody sees the old one. Reading and replacing are steps of their own,
between which others may act.
-/

namespace FeatureRefs

/-- The data file in use and the registry in force. -/
structure DataSource where
  path : Path
  registry : Registry

namespace DataSource

/-- Begins with the registry of a data file. -/
def load (files : Files) (path : Path) : DataSource :=
  ⟨path, .loadOrEmpty files path⟩

/-- Sets the data file that is read next. -/
def setPath (source : DataSource) (path : Path) : DataSource :=
  { source with path }

/-- What the data file holds now. -/
def read (source : DataSource) (files : Files) : Registry :=
  .loadOrEmpty files source.path

/-- Puts a registry in force. -/
def publish (source : DataSource) (registry : Registry) : DataSource :=
  { source with registry }

/-- Reads the data file anew. -/
def reload (source : DataSource) (files : Files) : DataSource :=
  source.publish (source.read files)

/-- Goes over to another data file. -/
def reloadFrom (source : DataSource) (files : Files) (path : Path) : DataSource :=
  (source.setPath path).reload files

@[simp] theorem path_setPath (source : DataSource) (path : Path) :
    (source.setPath path).path = path := rfl

@[simp] theorem registry_setPath (source : DataSource) (path : Path) :
    (source.setPath path).registry = source.registry := rfl

@[simp] theorem path_reload (source : DataSource) (files : Files) :
    (source.reload files).path = source.path := rfl

@[simp] theorem registry_reload (source : DataSource) (files : Files) :
    (source.reload files).registry = .loadOrEmpty files source.path := rfl

end DataSource

end FeatureRefs
