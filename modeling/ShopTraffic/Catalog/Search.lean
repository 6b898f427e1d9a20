import Std.Data.TreeMap
import ShopTraffic.Catalog.Products
import ShopTraffic.Random.Uniform

/-!
Finding products. A catalog carries indexes by name, country and category that one pass over its
products builds; a keyword is looked up as a name, then as a country, then as a category, and at
last as a part of a name.
-/

namespace ShopTraffic

open ShopTraffic.Random

/-- Products with an index from each name to its last product, and from each country and category
to its products, in list order. -/
structure Catalog where
  products : Array Product
  byName : Std.TreeMap String Nat
  byCountry : Std.TreeMap String (List Nat)
  byCategory : Std.TreeMap String (List Nat)

/-- How a keyword found a product. -/
inductive Match
  | product | country | category | part | nothing
  deriving DecidableEq, Repr

def Match.name : Match → String
  | product => "product_match"
  | country => "country_match"
  | category => "category_match"
  | part => "partial_match"
  | nothing => "no_match"

def occursIn (query : List Char) : List Char → Bool
  | [] => query.isEmpty
  | c :: cs => query.isPrefixOf (c :: cs) || occursIn query cs

namespace Catalog

def empty : Catalog := ⟨#[], ∅, ∅, ∅⟩

def enlist (m : Std.TreeMap String (List Nat)) (key : String) (i : Nat) :
    Std.TreeMap String (List Nat) :=
  m.insert key ((m[key]?).getD [] ++ [i])

def add (c : Catalog) (p : Product) : Catalog :=
  let i := c.products.size
  { products := c.products.push p
    byName := c.byName.insert p.name i
    byCountry := enlist c.byCountry p.country i
    byCategory := enlist c.byCategory p.category i }

def ofList (ps : List Product) : Catalog := ps.foldl add empty

def standard : Catalog := ofList tickets

def find? (c : Catalog) (name : String) : Option Product :=
  c.byName[name]? >>= (c.products[·]?)

/-- A product of the list of indexes under a key; no draw if the key has none. -/
def drawFrom (c : Catalog) (index : Std.TreeMap String (List Nat)) (key : String) :
    Draw (Option Product) :=
  match index[key]? with
  | none => return none
  | some is => return (← Draw.choose is) >>= (c.products[·]?)

def drawByCountry (c : Catalog) (country : String) : Draw (Option Product) :=
  c.drawFrom c.byCountry country

def drawByCategory (c : Catalog) (category : String) : Draw (Option Product) :=
  c.drawFrom c.byCategory category

def drawHomeExposure (c : Catalog) : Draw (Option Product) := do
  return (← Draw.choose homeExposure) >>= c.find?

/-- The first product whose name contains the query, unless that is empty. -/
def findPart? (c : Catalog) (query : String) : Option Product :=
  if query.isEmpty then none
  else c.products.toList.find? fun p => occursIn query.toList p.name.toList

def drawKeyword : Draw String := do
  return (← Draw.choose keywords).getD "Hong Kong"

/-- The product that a keyword leads to, and how. -/
def resolve (c : Catalog) (query : String) : Draw (Option Product × Match) := do
  if let some p := c.find? query then return (some p, .product)
  if let some p ← c.drawByCountry query then return (some p, .country)
  if let some p ← c.drawByCategory query then return (some p, .category)
  match c.findPart? query with
  | some p => return (some p, .part)
  | none => return (none, .nothing)

end Catalog

end ShopTraffic
