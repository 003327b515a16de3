import CommitSearch.Commit
import CommitSearch.Text.Lists

/-!
# Filters

A search can be narrowed to commits whose repository, type or component is one of some values. The
values are kept in the form in which commits are stored, so that they can be compared as they are. A
key without values puts no condition.
-/

namespace CommitSearch

open CommitSearch.Text

/-- The attributes of a commit by which a search can be narrowed. -/
inductive FilterKey
  | repository
  | type
  | component
deriving DecidableEq, Repr

namespace FilterKey

def all : List FilterKey := [repository, type, component]

/-- The name of a key, in requests and answers and of its column. -/
def name : FilterKey → String
  | repository => "repository"
  | type => "type"
  | component => "component"

def ofName (name : String) : Except Error FilterKey :=
  match all.find? fun k => k.name == name with
  | some key => .ok key
  | none => .error (.notFound (.filter name))

def valueOf (key : FilterKey) (c : Commit) : String :=
  match key with
  | repository => c.repository
  | type => c.type
  | component => c.component

theorem ofName_name (key : FilterKey) : ofName key.name = .ok key := by
  cases key <;> simp [ofName, all, name]

end FilterKey

/-- For every key the accepted values, in ascending order and without repetition. -/
structure Filters where
  repository : List String
  type : List String
  component : List String
deriving DecidableEq, Repr

def normalizeValues (values : List String) : List String :=
  (values.map normalize).filter fun v => !v.isEmpty

namespace Filters

def empty : Filters := ⟨[], [], []⟩

def values (f : Filters) : FilterKey → List String
  | .repository => f.repository
  | .type => f.type
  | .component => f.component

def insert (f : Filters) (key : FilterKey) (values : List String) : Filters :=
  let added := (normalizeValues values).foldr insertDistinct (f.values key)
  match key with
  | .repository => { f with repository := added }
  | .type => { f with type := added }
  | .component => { f with component := added }

def toList (f : Filters) : List (FilterKey × List String) :=
  (FilterKey.all.map fun key => (key, f.values key)).filter fun entry => !entry.2.isEmpty

theorem values_insert (f : Filters) (key : FilterKey) (vs : List String) (k : FilterKey) :
    (f.insert key vs).values k =
      if k = key then (normalizeValues vs).foldr insertDistinct (f.values key) else f.values k := by
  cases key <;> cases k <;> simp [insert, values]

end Filters
end CommitSearch
