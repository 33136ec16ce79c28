import CloudDetector.Json.Path
import CloudDetector.Resource.Attribute

namespace CloudDetector.Resource

/-- Variables of the process by name. -/
abbrev Environment := Table Text

/-- Gathers attributes from a metadata document and an environment. -/
structure Builder where
  document : Json
  environment : Environment
  attributes : Attributes

namespace Builder

def new (document : Json) (environment : Environment) : Builder :=
  ⟨document, environment, Table.empty⟩

def metadata (b : Builder) (path : Path) : Text := b.document.lookup path

/-- An empty value counts as present. -/
def hasVariable (b : Builder) (name : Text) : Bool := (b.environment.get? name).isSome

/-- An empty value is dropped, and what was there stays. -/
def set (b : Builder) (key value : Text) : Builder :=
  if value.isEmpty then b else { b with attributes := b.attributes.put key value }

theorem get?_set (b : Builder) (key k value : Text) :
    (b.set key value).attributes.get? k =
      if k = key ∧ value ≠ [] then some value else b.attributes.get? k := by
  cases value with
  | nil => simp [set]
  | cons c value => simp [set, Table.get?_put]

@[simp]
theorem set_document (b : Builder) (key value : Text) :
    (b.set key value).document = b.document := by
  unfold set
  split <;> rfl

@[simp]
theorem set_environment (b : Builder) (key value : Text) :
    (b.set key value).environment = b.environment := by
  unfold set
  split <;> rfl

/-- A key that is new comes after those that are there. -/
theorem entries_set (b : Builder) {key : Text} (value : Text)
    (h : key ∉ b.attributes.entries.map Prod.fst) :
    (b.set key value).attributes.entries =
      b.attributes.entries ++ [(key, value)].filter (fun e => e.2 ≠ []) := by
  cases value with
  | nil => simp [set]
  | cons c value => exact putEntry_of_new (c :: value) h

def setVariable (b : Builder) (key name : Text) : Builder :=
  b.set key ((b.environment.get? name).getD [])

def setMetadata (b : Builder) (key : Text) (path : Path) : Builder := b.set key (b.metadata path)

end Builder

end CloudDetector.Resource
