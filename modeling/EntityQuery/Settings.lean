import EntityQuery.Page
import EntityQuery.Request.Basic

/-!
Settings of a repository and of a store.
-/

namespace EntityQuery

/-- What a repository does where a request is silent: the page size of programmed listings, the
largest page size, and whether unsorted listings are sorted by their last modification. -/
structure RepositorySettings where
  defaultTake : UInt32
  maxTake : Option UInt32
  defaultOrder : Bool
  deriving DecidableEq, Repr

namespace RepositorySettings

/-- The settings without anything said. -/
def usual : RepositorySettings := ⟨usualTake, none, true⟩

/-- The window that a request gets. -/
def page (s : RepositorySettings) (skip take : UInt32) : Page :=
  Page.capped ⟨skip, take⟩ s.maxTake

end RepositorySettings

/-- How many sessions a store hands out at a time, and how long it waits for one, in
milliseconds. -/
structure StoreSettings where
  maxSessions : UInt64
  acquireTimeout : UInt64
  deriving DecidableEq, Repr

/-- The settings without anything said. -/
def StoreSettings.usual : StoreSettings := ⟨16, 5000⟩

end EntityQuery
