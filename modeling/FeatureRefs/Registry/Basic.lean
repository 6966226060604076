/-!
# Features and browsers

The registry holds the known features of the web platform and the browsers whose support counts. Its
features have distinct ids. A feature tells for each supporting browser the earliest version.
-/

namespace FeatureRefs

/-- The browsers that Baseline is computed over. -/
inductive BrowserId where
  | chrome
  | chromeAndroid
  | edge
  | safari
  | safariIos
  | firefox
  | firefoxAndroid
deriving Repr, DecidableEq

namespace BrowserId

/-- All browsers, in the order of every support table. -/
def all : List BrowserId :=
  [chrome, chromeAndroid, edge, safari, safariIos, firefox, firefoxAndroid]

/-- The key of a browser in the data. -/
def key : BrowserId → String
  | chrome => "chrome"
  | chromeAndroid => "chrome_android"
  | edge => "edge"
  | safari => "safari"
  | safariIos => "safari_ios"
  | firefox => "firefox"
  | firefoxAndroid => "firefox_android"

/-- The name of a browser that the data does not name. -/
def defaultName : BrowserId → String
  | chrome => "Chrome"
  | chromeAndroid => "Chrome Android"
  | edge => "Edge"
  | safari => "Safari"
  | safariIos => "Safari on iOS"
  | firefox => "Firefox"
  | firefoxAndroid => "Firefox for Android"

/-- The browser of a key. -/
def ofKey? (key : String) : Option BrowserId :=
  all.find? (·.key == key)

end BrowserId

/-- A version of a browser and the day it came out. -/
structure Release where
  version : String
  date : String
deriving Repr, DecidableEq

/-- A browser with its releases in the order of the data. -/
structure Browser where
  name : String
  releases : List Release
deriving Repr, DecidableEq

/-- How far a feature is available. -/
inductive Level where
  /-- For a long time in all browsers. -/
  | high
  /-- Since recently in all browsers. -/
  | low
  /-- Not in all browsers. -/
  | limited
deriving Repr, DecidableEq

/-- The availability of a feature. -/
structure Availability where
  level : Level := .limited
  lowDate : Option String := none
  highDate : Option String := none
  /-- The earliest supporting version by the key of the browser. -/
  support : List (String × String) := []
deriving Repr, DecidableEq

/-- A feature of the web platform. -/
structure Feature where
  id : String
  name : String
  description : String
  descriptionHtml : String
  availability : Availability
deriving Repr, DecidableEq

/-- The earliest version of a browser that supports a feature. -/
def Feature.supportFor (feature : Feature) (browser : BrowserId) : Option String :=
  feature.availability.support.lookup browser.key

/-- The known features and browsers. -/
structure Registry where
  features : List Feature := []
  browsers : List (String × Browser) := []
  nodup_ids : (features.map Feature.id).Nodup := by simp

namespace Registry

/-- The registry that knows nothing. -/
def empty : Registry := {}

instance : EmptyCollection Registry := ⟨empty⟩

instance : Inhabited Registry := ⟨empty⟩

/-- The number of features. -/
def size (r : Registry) : Nat :=
  r.features.length

/-- Whether there are no features. -/
def isEmpty (r : Registry) : Bool :=
  r.features.isEmpty

/-- The feature of an id. -/
def get? (r : Registry) (id : String) : Option Feature :=
  r.features.find? (·.id == id)

/-- Whether an id is registered. -/
def contains (r : Registry) (id : String) : Bool :=
  r.features.any (·.id == id)

/-- The features in the order of their ids. -/
def sortedFeatures (r : Registry) : List Feature :=
  r.features.mergeSort fun a b => decide (a.id ≤ b.id)

/-- The features without the one of an id. -/
def without (features : List Feature) (id : String) : List Feature :=
  features.filter (·.id != id)

theorem nodup_ids_put {features : List Feature} (h : (features.map Feature.id).Nodup)
    (feature : Feature) : ((without features feature.id ++ [feature]).map Feature.id).Nodup := by
  rw [List.map_append, List.nodup_append]
  refine ⟨h.sublist (List.Sublist.map _ List.filter_sublist), by simp, ?_⟩
  intro id hid other hother
  simp only [List.map_cons, List.map_nil, List.mem_singleton] at hother
  simp only [without, List.mem_map, List.mem_filter, bne_iff_ne] at hid
  obtain ⟨f, ⟨-, hne⟩, rfl⟩ := hid
  rw [hother]
  exact hne

/-- Registers a feature in place of the one with its id, if there is one. -/
def put (r : Registry) (feature : Feature) : Registry :=
  { r with
    features := without r.features feature.id ++ [feature]
    nodup_ids := nodup_ids_put r.nodup_ids feature }

@[simp] theorem size_empty : empty.size = 0 := rfl

theorem contains_iff {r : Registry} {id : String} :
    r.contains id = true ↔ ∃ f ∈ r.features, f.id = id := by
  simp [contains]

theorem isEmpty_eq_false {r : Registry} {id : String} (h : r.contains id = true) :
    r.isEmpty = false := by
  obtain ⟨feature, hfeature, -⟩ := contains_iff.1 h
  cases hfeatures : r.features with
  | nil => simp [hfeatures] at hfeature
  | cons first others => simp [isEmpty, hfeatures]

theorem contains_eq_isSome (r : Registry) (id : String) :
    r.contains id = (r.get? id).isSome := by
  rw [Bool.eq_iff_iff, contains_iff, get?, List.find?_isSome]
  simp

@[simp] theorem get?_put_self (r : Registry) (feature : Feature) :
    (r.put feature).get? feature.id = some feature := by
  have hnone : (without r.features feature.id).find? (·.id == feature.id) = none := by
    rw [List.find?_eq_none]
    intro f hf
    simpa [without] using (List.mem_filter.1 hf).2
  simp [get?, put, List.find?_append, hnone]

theorem get?_put_of_ne {r : Registry} {feature : Feature} {id : String} (h : id ≠ feature.id) :
    (r.put feature).get? id = r.get? id := by
  have hkeep : (without r.features feature.id).find? (·.id == id) =
      r.features.find? (·.id == id) := by
    rw [without, List.find?_filter]
    congr 1
    funext f
    by_cases hf : f.id = id
    · simp [hf, h]
    · simp [hf]
  simp [get?, put, List.find?_append, hkeep, h.symm]

end Registry

end FeatureRefs
